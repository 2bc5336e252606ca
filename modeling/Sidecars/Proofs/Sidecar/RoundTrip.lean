import Sidecars.Proofs.FileSystem.Growth
import Sidecars.Proofs.Sidecar.Frontmatter
import Sidecars.Proofs.Sidecar.Writing

/-!
# A sidecar, written and read back

Portable metadata whose sidecar is written is read back from the path that the write answers, with
one exception: the path may lead to the directory of the sidecar through a symbolic link that stands
where the sidecar goes.  The write puts a file in the place of the link, and the path does not lead
anywhere any more.

* `leadsThroughItself` tells such a path from the tree before the write, and
  `exists_link_of_leadsThroughItself` says that it takes a symbolic link.
* `read_of_becomes` and `read_error_of_becomes` are the two sides on the file system.
* `read_write` puts them together with the text of the sidecar.
-/

namespace Sidecars

namespace FileSystem

open Sidecars.Path (Step)

variable {fs a b : FileSystem} {loc : Location} {e e' : Option Entry}

/-- Whether steps from the start of a path lead to a directory. -/
def leadsToDirectory (fs : FileSystem) (start : Location) (steps : List Step) : Bool :=
  match follow fs.root true maxLinks start steps with
  | .ok (.found _ n) => n.isDirectory
  | _ => false

lemma leadsToDirectory_iff {start : Location} {steps : List Step} :
    fs.leadsToDirectory start steps = true ↔
      ∃ l n, follow fs.root true maxLinks start steps = .ok (.found l n) ∧ n.isDirectory = true := by
  unfold leadsToDirectory
  constructor
  · intro h
    split at h
    · next l n hfollow => exact ⟨l, n, hfollow, h⟩
    · simp at h
  · rintro ⟨l, n, hfollow, hn⟩
    rw [hfollow]
    exact hn

namespace Becomes

/-- Two file systems that differ at one location have the same ways, as far as nothing that matters
to a way stands there in the first one. -/
lemma embeds (h : fs.Becomes loc e a) (h' : fs.Becomes loc e' b)
    (hdir : ∀ mode, e ≠ some (.directory mode)) (hlink : ∀ target, e ≠ some (.link target)) :
    Embeds a.root b.root := by
  have hsame {l : Location} (hne : l ≠ loc) : b.entryAt? l = a.entryAt? l := by
    rw [h.entry_of_ne hne, h'.entry_of_ne hne]
  refine embeds_of_entries ?_ ?_
  · rintro l ⟨mode, hl⟩
    have hne : l ≠ loc := by
      rintro rfl
      exact hdir mode (h.entry_self.symm.trans hl)
    exact ⟨mode, by rw [hsame hne, hl]⟩
  · intro l target hl
    have hne : l ≠ loc := by
      rintro rfl
      exact hlink target (h.entry_self.symm.trans hl)
    rw [hsame hne, hl]

end Becomes

end FileSystem

namespace Sidecar

open FileSystem

variable {fs fs' : FileSystem} {target : Path} {place : Place} {mode : Nat} {contents : Bytes}

/-! ## Paths that lead through their own end -/

/-- Whether the way along a path leads through the entry at its end: without this entry, the steps
before the last one do not lead to a directory. -/
def leadsThroughItself (fs : FileSystem) (target : Path) : Bool :=
  match targetPlace fs target with
  | .ok place => !(fs.drop place).leadsToDirectory (fs.origin target) target.steps.dropLast
  | .error _ => false

lemma leadsThroughItself_iff (h : targetPlace fs target = .ok place) :
    leadsThroughItself fs target = false ↔
      (fs.drop place).leadsToDirectory (fs.origin target) target.steps.dropLast = true := by
  simp [leadsThroughItself, h]

variable {xs : List Path.Step} {name : Name}

/-- A path leads through the entry at its end only if this is a symbolic link. -/
theorem exists_link_of_leadsThroughItself (hp : target.steps = xs ++ [.down name])
    (h : leadsThroughItself fs target = true) :
    ∃ place p, targetPlace fs target = .ok place ∧
      fs.entryAt? place.location = some (.link p) := by
  cases hplace : targetPlace fs target with
  | error e => simp [leadsThroughItself, hplace] at h
  | ok place =>
    refine ⟨place, ?_⟩
    by_contra hlink
    obtain ⟨-, -, -, hold, n, hfollow, hn⟩ := (targetPlace_eq_ok_iff hp).1 hplace
    have hdrop := becomes_drop (hasDirectory_iff.2 ⟨n, stands_of_follow hfollow, hn⟩) hold
    -- nothing that matters to a way goes away with the entry
    have hwithout : Embeds fs.root (fs.drop place).root :=
      (Becomes.self fs place.location).embeds hdrop (fun mode hmode => hold ⟨mode, hmode⟩)
        fun p hp => hlink ⟨p, rfl, hp⟩
    obtain ⟨m, hm, hmdir⟩ := follow_embeds hwithout hfollow hn
    have hway : leadsThroughItself fs target = false := by
      rw [leadsThroughItself_iff hplace, leadsToDirectory_iff, hp, List.dropLast_concat]
      exact ⟨place.directory, m, hm, hmdir⟩
    simp [hway] at h

/-! ## Reading what was written -/

lemma exists_resolve_of_read (h : fs.read target = .ok contents) :
    ∃ spot, fs.resolve false target = .ok spot := by
  rw [FileSystem.read] at h
  split at h
  · next n hstatus =>
    have hlink : ∃ m, fs.linkStatus target = .ok m := by
      rcases linkStatus_of_status hstatus with hn | ⟨t, ht⟩
      · exact ⟨n, hn⟩
      · exact ⟨_, ht⟩
    obtain ⟨m, hm⟩ := hlink
    rw [linkStatus, nodeAt] at hm
    split at hm
    · next l m' hresolve => exact ⟨_, hresolve⟩
    · simp at hm
    · simp at hm
  · simp at h

/-- Where the entry at the end is not on the way, the sidecar is read. -/
theorem read_of_becomes (hp : target.steps = xs ++ [.down name])
    (hplace : targetPlace fs target = .ok place)
    (hfs' : fs.Becomes place.location (some (.file mode contents)) fs')
    (hway : leadsThroughItself fs target = false) : fs'.read target = .ok contents := by
  obtain ⟨hrefusal, hname, hlength, hold, n, hfollow, hn⟩ := (targetPlace_eq_ok_iff hp).1 hplace
  have hdir : fs.HasDirectory place.directory :=
    hasDirectory_iff.2 ⟨n, stands_of_follow hfollow, hn⟩
  have hdrop := becomes_drop hdir hold
  rw [leadsThroughItself_iff hplace, leadsToDirectory_iff, hp, List.dropLast_concat] at hway
  obtain ⟨l, d, hl, hd⟩ := hway
  -- without the entry the way leads to the same directory as with it
  have hback : Embeds (fs.drop place).root fs.root := hdrop.embeds (.self fs _) (by simp) (by simp)
  obtain ⟨n', hl', -⟩ := follow_embeds hback hl hd
  obtain ⟨rfl, -⟩ : place.directory = l ∧ n = n' := by
    rw [hfollow] at hl'
    simpa using hl'
  -- and with the sidecar in its place
  have hnew : Embeds (fs.drop place).root fs'.root := hdrop.embeds hfs' (by simp) (by simp)
  obtain ⟨m, hm, hmdir⟩ := follow_embeds hnew hl hd
  have hnode : fs'.root.get? place.location = some (.file mode contents) :=
    nodeOf?_of_file hfs'.entry_self
  have hchild : m.child? name = some (.file mode contents) := by
    rw [← hname, ← Node.get?_concat (stands_of_follow hm)]
    exact hnode
  have hlook : lookIn m place.directory name =
      .ok (.found (place.directory ++ [name]) (.file mode contents)) := by
    exact lookIn_eq_ok_iff.2 ⟨hmdir, hlength, .inr ⟨_, hchild, rfl⟩⟩
  have horigin : fs'.origin target = fs.origin target := by rw [origin, origin, hfs'.current]
  have hresolve := (resolve_eq_ok_iff hp).2 ⟨hrefusal, _, m, by rw [horigin, hm], hlook⟩
  have hstatus : fs'.status target = .ok (.file mode contents) := by
    rw [status_eq_ok_iff]
    rw [resolve_of_refusal_eq_none hrefusal] at hresolve ⊢
    exact ⟨_, (follow_last (by simp [hresolve])).trans hresolve⟩
  rw [FileSystem.read, hstatus]
  rfl

/-- Where the entry at the end is on the way, the path does not lead anywhere afterwards. -/
theorem read_error_of_becomes (hp : target.steps = xs ++ [.down name])
    (hplace : targetPlace fs target = .ok place)
    (hfs' : fs.Becomes place.location (some (.file mode contents)) fs')
    (hway : leadsThroughItself fs target = true) : ∃ e, fs'.read target = .error e := by
  obtain ⟨hrefusal, hname, hlength, hold, n, hfollow, hn⟩ := (targetPlace_eq_ok_iff hp).1 hplace
  have hdrop := becomes_drop (hasDirectory_iff.2 ⟨n, stands_of_follow hfollow, hn⟩) hold
  cases hread : fs'.read target with
  | error e => exact ⟨e, rfl⟩
  | ok bytes =>
    -- a way to the file has a part that leads to its directory, which was there without the entry
    obtain ⟨spot, hspot⟩ := exists_resolve_of_read hread
    obtain ⟨-, l, d, hl, hlook⟩ := (resolve_eq_ok_iff hp).1 hspot
    have hback : Embeds fs'.root (fs.drop place).root := hfs'.embeds hdrop (by simp) (by simp)
    obtain ⟨m, hm, hmdir⟩ := follow_embeds hback hl (lookIn_eq_ok_iff.1 hlook).1
    have horigin : fs'.origin target = fs.origin target := by rw [origin, origin, hfs'.current]
    have hway' : leadsThroughItself fs target = false := by
      rw [leadsThroughItself_iff hplace, leadsToDirectory_iff, hp, List.dropLast_concat]
      exact ⟨l, m, by rw [← horigin, hm], hmdir⟩
    simp [hway'] at hway

/-- Portable metadata is written, and it is read back from the sidecar: the same fields with the
same values, in the same order.  Only a path that leads through the symbolic link that the sidecar
replaces does not lead to the sidecar. -/
theorem read_write {metadata : Metadata} (h : Yaml.Portable 127 (.mapping metadata)) :
    (∃ text, Frontmatter.render metadata = .ok text) ∧
      ∀ (fs : FileSystem) (media s : Path), (write fs media metadata).2 = .ok s →
        if leadsThroughItself fs s then
          ∃ e, read (write fs media metadata).1 s = .error (.io (.os e))
        else read (write fs media metadata).1 s = .ok metadata := by
  have htext := Frontmatter.renderChars_eq h
  constructor
  · rw [Frontmatter.render, htext]
    exact ⟨_, rfl⟩
  · intro fs media s hwrite
    obtain ⟨rfl, text, place, hrender, hplace, hbecomes⟩ := write_ok hwrite
    obtain ⟨xs, bs, hbs, hsteps⟩ := steps_pathFor media
    rw [htext, Except.ok.injEq] at hrender
    split
    · next hway =>
      obtain ⟨e, he⟩ := read_error_of_becomes hsteps hplace hbecomes hway
      exact ⟨e, by rw [read, he]⟩
    · next hway =>
      rw [Bool.not_eq_true] at hway
      rw [read, read_of_becomes hsteps hplace hbecomes hway, ← hrender]
      exact ofContents_encodeChars h _

/-! ## A directory with a link to itself -/

/-- The name `x`. -/
def mediaName : Name where
  bytes := Binary.ascii "x"
  plain := by decide

/-- A file system in which the sidecar of `x` is a link to the directory where it stands. -/
def loopSystem : FileSystem where
  root := .directory 0o755 [(nameOf mediaName, .link ⟨[Path.dot]⟩)]
  current := []
  umask := 0o022

/-- The path `x.metadata.md/x`, which leads through the link. -/
def loopPath : Path := (pathFor ⟨mediaName.bytes⟩).join mediaName.bytes

/-- A title as metadata. -/
def titled : Metadata := [(.string "Title", .string "Summer")]

lemma portable_titled : Yaml.Portable 127 (.mapping titled) :=
  .mapping (by simp [titled]) (by simp [titled]) (by simp [titled, Yaml.Portable.string])

/-- The sidecar of `x` takes the place of the link and can be read. -/
theorem read_write_link :
    read (write loopSystem ⟨mediaName.bytes⟩ titled).1 (pathFor ⟨mediaName.bytes⟩) = .ok titled := by
  have hread := (read_write portable_titled).2 loopSystem ⟨mediaName.bytes⟩ _ rfl
  rwa [if_neg (by decide)] at hread

/-- The sidecar of `x.metadata.md/x` takes the place of the same link, and the path that the write
answers leads to nothing. -/
theorem read_write_through_link :
    Yaml.Portable 127 (.mapping titled) ∧
      (write loopSystem loopPath titled).2 = .ok (pathFor loopPath) ∧
      read (write loopSystem loopPath titled).1 (pathFor loopPath) =
        .error (.io (.os .notDirectory)) :=
  ⟨portable_titled, rfl, rfl⟩

end Sidecar

end Sidecars
