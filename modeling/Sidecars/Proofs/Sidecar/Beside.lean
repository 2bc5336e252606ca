import Sidecars.Proofs.MediaFile
import Sidecars.Proofs.Path.Components
import Sidecars.Proofs.Walk

/-!
# Sidecars beside their files

The ending of sidecars is put behind the last byte of a path, while the parent of a path, its name
and its extension are read off its components.  The two agree as long as the path ends in a name,
without a slash or a segment `.` behind it, and such are the paths of all files that a walk meets:
below the root they were joined from names, and a root with something else behind its last name
leads to a directory, if anywhere.

* `Path.EndsInName` says how such a path ends.
* `Sidecar.components_pathFor`: behind such a path the ending makes the last name longer and leaves
  the rest as it is.
* `Walk.file_mem_met` finds the name at the end of each path that a walk meets a file at.
* `Sidecar.pathFor_beside` puts these together, with the extension that keeps sidecars away from the
  routes of a dispatcher.
-/

namespace Sidecars

/-! ## Paths that end in a name -/

namespace Path

open Binary

variable {p q : Path} {name name' : Name} {pieces : List Bytes} {xs : List Component}

/-- The components of the parent of a path.  The empty path and a path to the root have none. -/
def parent? (p : Path) : Option (List Component) :=
  match p.components.getLast? with
  | none | some .root => none
  | some _ => some p.components.dropLast

/-- Whether a name is the last segment of a path. -/
def EndsInName (p : Path) (name : Name) : Prop := ∃ pieces, p.segments = pieces ++ [name.bytes]

lemma endsInName_join (hp : p.bytes ≠ []) (name : Name) : (p.join name.bytes).EndsInName name := by
  obtain ⟨pieces, -, -, hjoin⟩ := segments_join hp
  exact ⟨pieces, hjoin name⟩

lemma endsInName_of_steps {before : List Step} (h : p.steps = before ++ [.down name]) :
    p.EndsInName name := by
  obtain ⟨pieces, last, hsegments, -, hlast⟩ := List.map_eq_append_iff.1 h
  obtain ⟨segment, rfl, hsegment⟩ := List.map_eq_singleton_iff.1 hlast
  refine ⟨pieces, ?_⟩
  unfold Step.ofSegment at hsegment
  split at hsegment
  · next found hfound =>
    obtain rfl : found = name := by simpa using hsegment
    unfold Name.ofBytes? at hfound
    split at hfound
    · obtain rfl := Option.some.inj hfound
      exact hsegments
    · cases hfound
  · split at hsegment
    · cases hsegment
    · cases hsegment

/-- A name at the end of a path is not what its first component depends on. -/
lemma opening_of_segments (h : p.segments = pieces ++ [name.bytes]) :
    p.opening = if p.isAbsolute then [.root]
      else if pieces.head? = some [dot] then [.current] else [] := by
  rw [opening, h]
  cases pieces with
  | nil =>
    have hdot : name.bytes ≠ [dot] := name.plain.2.1
    simp [hdot]
  | cons piece pieces => rfl

lemma bytes_ne_nil_of_segments (h : p.segments = pieces ++ [name.bytes]) : p.bytes ≠ [] := by
  intro hnil
  rw [segments, hnil] at h
  have hname := List.append_eq_singleton_iff.1 h.symm
  simp [name.bytes_ne_nil] at hname

lemma components_of_segments (h : p.segments = pieces ++ [name.bytes]) :
    p.components = p.opening ++ pieces.filterMap Component.ofSegment? ++ [.normal name.bytes] := by
  rw [components_eq (bytes_ne_nil_of_segments h), h, List.filterMap_append, List.append_assoc]
  simp [ofSegment?_name]

/-- Paths that differ in the name at their end only have components that do. -/
lemma exists_components_of_segments (hp : p.segments = pieces ++ [name.bytes])
    (hq : q.segments = pieces ++ [name'.bytes]) (hroot : q.isAbsolute = p.isAbsolute) :
    ∃ xs, p.components = xs ++ [.normal name.bytes] ∧
      q.components = xs ++ [.normal name'.bytes] := by
  refine ⟨_, components_of_segments hp, ?_⟩
  rw [components_of_segments hq, opening_of_segments hp, opening_of_segments hq, hroot]

lemma parent?_of_components (h : p.components = xs ++ [.normal name.bytes]) :
    p.parent? = some xs := by
  rw [parent?, h, List.getLast?_concat, List.dropLast_concat]

lemma fileName?_eq_of_alike (h : p.alike q = true) : p.fileName? = q.fileName? := by
  have hcomponents : p.components = q.components := of_decide_eq_true h
  rw [fileName?, fileName?, hcomponents]

lemma fileName?_of_components (h : p.components = xs ++ [.normal name.bytes]) :
    p.fileName? = some name.bytes := by
  rw [fileName?, h, List.getLast?_concat]

end Path

/-! ## The path of a sidecar -/

namespace Sidecar

open Binary

variable {p q : Path} {name : Name}

/-- The ending of sidecars makes the name at the end of a path longer. -/
theorem components_pathFor (h : p.EndsInName name) :
    ∃ xs, p.components = xs ++ [.normal name.bytes] ∧
      (pathFor p).components = xs ++ [.normal (nameOf name).bytes] := by
  obtain ⟨pieces, hpieces⟩ := h
  have hsuffix : Path.slash ∉ suffix := by rw [suffix_eq]; decide
  refine Path.exists_components_of_segments hpieces (splitAt_append hpieces hsuffix) ?_
  -- the first byte of a path that is not empty stays the first
  obtain ⟨b, rest, hb⟩ := List.exists_cons_of_ne_nil (Path.bytes_ne_nil_of_segments hpieces)
  rw [Path.isAbsolute, Path.isAbsolute, pathFor, Path.append, hb]
  rfl

/-- Whether a path stands beside another one as the sidecar of a file: in the same directory, under
the name of the file with the ending of sidecars. -/
structure Beside (media sidecar : Path) : Prop where
  /-- The two have the same parent. -/
  parent : ∃ xs, media.parent? = some xs ∧ sidecar.parent? = some xs
  /-- The name of one is that of the other, and longer by the ending. -/
  name : ∃ bs, media.fileName? = some bs ∧ sidecar.fileName? = some (bs ++ suffix)

lemma beside_pathFor (h : p.EndsInName name) : Beside p (pathFor p) := by
  obtain ⟨xs, hp, hsidecar⟩ := components_pathFor h
  refine ⟨⟨xs, ?_, ?_⟩, name.bytes, ?_, ?_⟩
  · exact Path.parent?_of_components hp
  · exact Path.parent?_of_components hsidecar
  · exact Path.fileName?_of_components hp
  · exact Path.fileName?_of_components hsidecar

/-- Sidecars of files at different paths have different paths. -/
lemma alike_pathFor {name' : Name} (hp : p.EndsInName name) (hq : q.EndsInName name') :
    (pathFor p).alike (pathFor q) = p.alike q := by
  obtain ⟨xs, hp, hp'⟩ := components_pathFor hp
  obtain ⟨ys, hq, hq'⟩ := components_pathFor hq
  unfold Path.alike
  rw [hp, hp', hq, hq']
  simp only [List.append_singleton_inj, Path.Component.normal.injEq, nameFor,
    List.append_cancel_right_eq]

end Sidecar

/-! ## The paths of the files that a walk meets -/

namespace FileSystem

variable {fs : FileSystem} {p : Path}

/-- A path that leads to something other than a directory ends in a name. -/
lemma exists_endsInName {n : Node} (h : fs.linkStatus p = .ok n) (hn : n.isDirectory = false) :
    ∃ name, p.EndsInName name := by
  obtain ⟨l, hresolve⟩ := linkStatus_eq_ok_iff.1 h
  obtain ⟨xs, step, hsteps⟩ := List.eq_nil_or_concat p.steps |>.resolve_left p.steps_ne_nil
  rw [List.concat_eq_append] at hsteps
  obtain ⟨name, rfl⟩ := exists_down_of_resolve hsteps hresolve hn
  exact ⟨name, Path.endsInName_of_steps hsteps⟩

end FileSystem

namespace Walk

open FileSystem

variable {σ : Type} {system : σ → FileSystem} {meet : σ → WalkItem → σ} {root p : Path} {s : σ}
  {f : MediaFile} {items : List WalkItem} {kind : NodeKind}

/-- Whether all files among some items are at paths that end in names. -/
def Named (items : List WalkItem) : Prop :=
  ∀ f, .file f ∈ items → ∃ name, f.path.EndsInName name

lemma Named.nil : Named [] := fun _ h => absurd h List.not_mem_nil

lemma Named.file (h : Named items) (hp : ∃ name, p.EndsInName name) :
    Named (items ++ [.file (.ofPath p)]) := by
  intro f hf
  rcases List.mem_append.1 hf with hf | hf
  · exact h f hf
  · obtain rfl : f = .ofPath p := by simpa using hf
    exact hp

lemma Named.fault (h : Named items) (e : Errno) : Named (items ++ [.fault p e]) := by
  intro f hf
  rcases List.mem_append.1 hf with hf | hf
  · exact h f hf
  · simp at hf

/-- What is no directory is met at its own path, or passed over. -/
lemma Named.leaf (h : Named items) (system : List WalkItem → FileSystem) (depth : Nat)
    (hp : ∃ name, p.EndsInName name) (hkind : kind ≠ .directory) :
    Named (Walk.visit system (fun items item => items ++ [item]) depth items p kind) := by
  cases kind with
  | directory => exact absurd rfl hkind
  | pipe =>
    rw [visit_pipe]
    exact h
  | file =>
    rw [visit_file]
    exact h.file hp
  | link =>
    rw [visit_link]
    split
    · exact h.file hp
    · exact h

/-- Below a directory, names are joined to its path, whatever the listings show. -/
lemma Named.visit (h : Named items) (system : List WalkItem → FileSystem) (depth : Nat)
    (hne : p.bytes ≠ []) (hp : kind ≠ .directory → ∃ name, p.EndsInName name) :
    Named (Walk.visit system (fun items item => items ++ [item]) depth items p kind) := by
  induction depth generalizing items p kind with
  | zero =>
    by_cases hkind : kind = .directory
    · subst hkind
      exact h
    · exact h.leaf system 0 (hp hkind) hkind
  | succ depth ih =>
    by_cases hkind : kind = .directory
    · subst hkind
      rw [Walk.visit]
      cases (system items).list p with
      | error e => exact h.fault e
      | ok entries =>
        refine List.foldlRecOn entries _ h fun items h entry _ => ih h ?_ fun _ => ?_
        · exact Path.descend_ne_nil hne [entry.1]
        · exact ⟨entry.1, Path.endsInName_join hne entry.1⟩
    · exact h.leaf system _ (hp hkind) hkind

/-- Every file that a walk meets is at a path that ends in a name, even if the file system changes
on the way of the walk. -/
theorem file_mem_met (h : .file f ∈ met system meet root s) :
    ∃ name, f.path.EndsInName name := by
  suffices hmet : Named (met system meet root s) from hmet f h
  rw [met, fold]
  cases hlink : (system s).linkStatus root with
  | error e =>
    simp only [List.foldl_nil, hlink]
    exact Named.nil.fault e
  | ok n =>
    have hne := (Path.refusal?_eq_none_iff.1
      (refusal?_of_resolve (linkStatus_eq_ok_iff.1 hlink).choose_spec)).2.1
    have hname (hn : n.isDirectory = false) := exists_endsInName hlink hn
    simp only [List.foldl_nil, hlink]
    cases n with
    | file mode contents => exact Named.nil.visit _ _ hne fun _ => hname rfl
    | directory mode es => exact Named.nil.visit _ _ hne fun hkind => absurd rfl hkind
    | pipe mode => exact Named.nil.visit _ _ hne fun _ => hname rfl
    | link target =>
      simp only
      cases (system s).status root with
      | error e => exact Named.nil.fault e
      | ok n => exact Named.nil.visit _ _ hne fun _ => hname rfl

end Walk

/-! ## Beside the files and away from the routes -/

namespace Sidecar

/-- A path that is routed is none of a sidecar, however it is spelled. -/
lemma not_alike_of_route? {d : Dispatcher} (hd : d.PassesSidecars) {p q : Path}
    (hq : d.route? (.ofPath q) ≠ none) : q.alike (pathFor p) = false := by
  by_contra halike
  rw [Bool.not_eq_false] at halike
  have hextension : (MediaFile.ofPath q).extension = (MediaFile.ofPath (pathFor p)).extension := by
    simp only [MediaFile.ofPath, Path.extension?, Path.fileName?_eq_of_alike halike]
  rw [extension_pathFor] at hextension
  exact hq (Dispatcher.route?_eq_none_of_extension hd hextension)

/-- Whatever bytes spell a path, the sidecar for it has the extension `md`.  So no dispatcher that
lists `md` nowhere routes it, and it has not the path of anything that such a dispatcher routes.
For the files that one walk meets, whatever becomes of the file system on its way, the sidecar
stands beside the file, and sidecars have the same components exactly if the files have. -/
theorem pathFor_beside :
    (∀ p, (MediaFile.ofPath (pathFor p)).extension = "md") ∧
    (∀ d : Dispatcher, d.PassesSidecars → ∀ p, d.route? (.ofPath (pathFor p)) = none ∧
      ∀ q, d.route? (.ofPath q) ≠ none → q.alike (pathFor p) = false) ∧
    ∀ (σ : Type) (system : σ → FileSystem) (meet : σ → WalkItem → σ) (root : Path) (s : σ)
      (f g : MediaFile), .file f ∈ Walk.met system meet root s →
      .file g ∈ Walk.met system meet root s →
      Beside f.path (pathFor f.path) ∧
        ((pathFor f.path).alike (pathFor g.path) = true ↔ f.path.alike g.path = true) := by
  refine ⟨extension_pathFor, ?_, ?_⟩
  · intro d hd p
    exact ⟨Dispatcher.route?_eq_none_of_extension hd (extension_pathFor p),
      fun q hq => not_alike_of_route? hd hq⟩
  · intro σ system meet root s f g hf hg
    obtain ⟨name, hname⟩ := Walk.file_mem_met hf
    obtain ⟨name', hname'⟩ := Walk.file_mem_met hg
    refine ⟨beside_pathFor hname, ?_⟩
    rw [alike_pathFor hname hname']

/-- A file system with a file `book` and a link to it that has the name of its sidecar. -/
def shelfSystem : FileSystem where
  root := .directory 0o755
    [(⟨Binary.ascii "book", by decide⟩, .file 0o644 []),
      (⟨Binary.ascii "book.metadata.md", by decide⟩, .link ⟨Binary.ascii "book"⟩)]
  current := []
  umask := 0o022

/-- A walk through the shelf, with a dot and slashes in the path of its root, meets the file and the
link.  Their sidecars are two, and the second is not the first. -/
theorem pathFor_beside_shelf :
    (Dispatcher.standard.route? (.ofPath (pathFor ⟨Binary.ascii "a/b.jpg/."⟩)) = none ∧
      (⟨Binary.ascii "b.jpg"⟩ : Path).alike (pathFor ⟨Binary.ascii "b.jpg/."⟩) = false) ∧
    Beside ⟨Binary.ascii ".//book"⟩ (pathFor ⟨Binary.ascii ".//book"⟩) ∧
      (pathFor ⟨Binary.ascii ".//book"⟩).alike (pathFor ⟨Binary.ascii ".//book.metadata.md"⟩) =
        false := by
  have hitems : Walk.met (fun _ : Unit => shelfSystem) (fun s _ => s) ⟨Binary.ascii ".//"⟩ () =
      [.file (.ofPath ⟨Binary.ascii ".//book"⟩),
        .file (.ofPath ⟨Binary.ascii ".//book.metadata.md"⟩)] := by
    decide +kernel
  obtain ⟨-, hroutes, hwalk⟩ := pathFor_beside
  obtain ⟨hbeside, halike⟩ := hwalk Unit (fun _ => shelfSystem) (fun s _ => s) _ ()
    (.ofPath ⟨Binary.ascii ".//book"⟩) (.ofPath ⟨Binary.ascii ".//book.metadata.md"⟩)
    (by rw [hitems]; simp) (by rw [hitems]; simp)
  refine ⟨⟨?_, ?_⟩, hbeside, ?_⟩
  · exact (hroutes _ Dispatcher.standard_passesSidecars _).1
  · refine (hroutes _ Dispatcher.standard_passesSidecars _).2 _ ?_
    have hroute : (Dispatcher.standard.route? (.ofPath ⟨Binary.ascii "b.jpg"⟩)).isSome = true := by
      decide +kernel
    exact Option.isSome_iff_ne_none.1 hroute
  · rw [← Bool.not_eq_true]
    exact halike.not.2 (by decide)

end Sidecar

end Sidecars
