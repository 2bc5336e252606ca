import Sidecars.Proofs.Walk.Descent

/-!
# Writes that come to the same

Whether a sidecar can be written, and why not, depends on little: on the directory of the media
file being led to, on what stands at the place of the sidecar, and on which names of temporary files
are taken.  Two file systems that agree on that give the same answer (`Sidecar.write_result_eq`) and
the same mode (`Sidecar.sidecarMode_eq`).
-/

namespace Sidecars

namespace Sidecar

open FileSystem

variable {fs fs' : FileSystem} {root : Path} {top a : Location} {name : Name}

lemma sidecarMode_eq {target : Path} (humask : fs'.umask = fs.umask)
    (h : (fs'.status target).map Node.entry = (fs.status target).map Node.entry) :
    sidecarMode fs' target = sidecarMode fs target := by
  have hmasked : fs'.masked newMode = fs.masked newMode := by rw [masked, masked, humask]
  unfold sidecarMode
  rcases cases_of_map_entry_eq h with ⟨e, hn', hn⟩ | ⟨n', n, hn', hn, hentry⟩
  · rw [hn', hn]
    exact hmasked
  · rw [hn', hn]
    cases n <;> cases n' <;> simp_all [Node.entry]

/-! ## The directory of a sidecar -/

/-- The directory of a joined path leads where the path leads to which a name was joined. -/
lemma resolve_directory_join {p : Path} {bs : Bytes} {l : Location} {n : Node}
    (h : fs.resolve true p = .ok (.found l n)) (hn : n.isDirectory = true)
    (hbs : Path.slash ∉ bs) : fs.resolve true (p.join bs).directory = .ok (.found l n) := by
  have hne := bytes_ne_nil_of_resolve h
  obtain ⟨hstart, hne', xs, j, k, hxs, hxs'⟩ := Path.steps_directory hne hbs
  have hrefusal := refusal?_of_resolve h
  have hrefusal' := Path.refusal?_eq_none_of_start hstart hne' hrefusal
  have horigin : fs.origin (p.join bs).directory = fs.origin p := by
    obtain ⟨b, rest, hb⟩ := List.exists_cons_of_ne_nil hne'
    obtain ⟨tail, htail⟩ := hstart
    rw [origin, origin, Path.isAbsolute, Path.isAbsolute, ← htail, hb]
    rfl
  rw [resolve_of_refusal_eq_none hrefusal, hxs', follow_append_stays hn] at h
  rw [resolve_of_refusal_eq_none hrefusal', horigin, hxs, follow_append_stays hn]
  exact h

/-- The directory of a sidecar's path leads where the path of the media file's directory leads. -/
lemma resolve_directory {n : Node}
    (h : fs.resolve true (root.descend a) = .ok (.found (top ++ a) n)) (hn : n.isDirectory = true) :
    fs.resolve true (root.descend (a ++ [name])).directory = .ok (.found (top ++ a) n) := by
  rw [Path.descend_concat]
  exact resolve_directory_join h hn name.slash_notMem

/-- Looking for a temporary file comes to a look into the directory of the sidecar, unless there is
an obstacle on the way from the top of the tree. -/
lemma resolve_temporaryPath {target : Path} {l : Location} {n : Node}
    (h : fs.resolve true target.directory = .ok (.found l n)) (hn : n.isDirectory = true)
    (name : Name) :
    fs.resolve false (temporaryPath fs target name) =
      match fs.obstacle? (target.directory.join name.bytes) with
      | some e => .error e
      | none => lookIn n l name := by
  have hne := target.directory_ne_nil
  have hjoin : (target.directory.join name.bytes).bytes ≠ [] := Path.join_ne_nil hne _
  have hcurrent (hrelative : (target.directory.join name.bytes).isAbsolute = false) :
      fs.HasDirectory fs.current :=
    hasDirectory_current h (by rwa [Path.isAbsolute_join hne] at hrelative)
  rw [temporaryPath, ← absolute_join hne, resolve_absolute hjoin hcurrent]
  cases hobstacle : fs.obstacle? (target.directory.join name.bytes) with
  | some e => rfl
  | none => exact resolve_join h hn (refusal?_of_obstacle?_eq_none hjoin hobstacle) (by simp)

/-- The search for the place of a temporary file goes the same way where the same names are free. -/
lemma firstPlace_congr {target : Path} {l : Location} {n n' : Node}
    (hcurrent : fs'.current = fs.current)
    (h : fs.resolve true target.directory = .ok (.found l n)) (hn : n.isDirectory = true)
    (h' : fs'.resolve true target.directory = .ok (.found l n')) (hn' : n'.isDirectory = true)
    (hfree : ∀ k, n'.child? (temporaryName k) = none ↔ n.child? (temporaryName k) = none)
    (tries k : Nat) : firstPlace fs' target tries k = firstPlace fs target tries k := by
  induction tries generalizing k with
  | zero => rfl
  | succ tries ih =>
    have hpath : temporaryPath fs' target (temporaryName k) =
        temporaryPath fs target (temporaryName k) := by
      rw [temporaryPath, temporaryPath, absolute, absolute, hcurrent]
    have hlook := resolve_temporaryPath h hn (temporaryName k)
    have hlook' := resolve_temporaryPath h' hn' (temporaryName k)
    rw [obstacle?_eq hcurrent] at hlook'
    rw [firstPlace, firstPlace, hlook, hlook', hpath]
    cases fs.obstacle? (target.directory.join (temporaryName k).bytes) with
    | some e => rfl
    | none =>
      simp only [lookIn_temporaryName hn, lookIn_temporaryName hn']
      have hk := hfree k
      cases hchild : n.child? (temporaryName k) with
      | none => rw [hk.2 hchild]
      | some m =>
        obtain ⟨m', hm'⟩ := Option.ne_none_iff_exists'.1 (hk.not.2 (by rw [hchild]; simp))
        rw [hm']
        exact ih (k + 1)

/-! ## The whole write -/

/-- Writing a sidecar ends in the same way in two file systems that agree on its place and on the
names of temporary files in its directory, if chance says the same. -/
theorem write_result_eq (m : Metadata) (ha : fs.Opens root top a) (ha' : fs'.Opens root top a)
    (hcurrent : fs'.current = fs.current) (hchance : fs'.chance = fs.chance)
    (htarget : fs'.HasDirectory (top ++ a ++ [nameOf name]) ↔
      fs.HasDirectory (top ++ a ++ [nameOf name]))
    (htemporary : ∀ k, fs'.entryAt? (top ++ a ++ [temporaryName k]) =
      fs.entryAt? (top ++ a ++ [temporaryName k])) :
    (write fs' (root.descend (a ++ [name])) m).2 =
      (write fs (root.descend (a ++ [name])) m).2 := by
  have hplace : targetPlace fs' (root.descend (a ++ [nameOf name])) =
      targetPlace fs (root.descend (a ++ [nameOf name])) := ha.targetPlace_eq ha' htarget
  obtain ⟨n, hn, hdir⟩ := ha
  obtain ⟨n', hn', hdir'⟩ := ha'
  have hfree (k : Nat) :
      n'.child? (temporaryName k) = none ↔ n.child? (temporaryName k) = none := by
    have hk := htemporary k
    rw [entryAt?_eq, entryAt?_eq, Node.get?_concat (get?_of_resolve hn),
      Node.get?_concat (get?_of_resolve hn')] at hk
    rw [← Option.map_eq_none_iff, hk, Option.map_eq_none_iff]
  have htemporaryPlace : temporaryPlace fs' (root.descend (a ++ [nameOf name])) =
      temporaryPlace fs (root.descend (a ++ [nameOf name])) := by
    rw [temporaryPlace, temporaryPlace, hchance]
    exact firstPlace_congr hcurrent (resolve_directory hn hdir) hdir (resolve_directory hn' hdir')
      hdir' hfree nameCount _
  rw [write_result, write_result, pathFor_descend, htemporaryPlace, hplace]

end Sidecar

end Sidecars
