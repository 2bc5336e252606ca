import Mathlib.Data.Set.Insert
import Sidecars.Proofs.FileSystem.Looking
import Sidecars.Proofs.Path
import Sidecars.Walk

/-!
# Two walks side by side

A walk may carry a file system that changes on the way.  What is known of such a walk is known by
comparison: a second walk goes through the same directories, and a relation between the states of
the two holds at every step.

* `Walk.Simulates` says what the relation has to keep.  The relation may speak of the *addresses*
  that have been met so far, an address being the names that lead from the root to an entry.
* `Walk.visit_simulates` and `Walk.fold_simulates` then relate the ends of the two walks.

The second walk may meet less than the first one: files at the addresses of `extra` are met by the
first walk only.
-/

namespace Sidecars

namespace Walk

variable {σ τ : Type}

/-- The part of a listing that a walk looks at: pipes are passed over. -/
def looked (entries : List (Name × NodeKind)) : List (Name × NodeKind) :=
  entries.filter fun e => e.2 ≠ .pipe

/-- Whether two looks into a directory show the same, except that the first one may show some more
files. -/
inductive Shows (extra : Name → Bool) :
    Except Errno (List (Name × NodeKind)) → Except Errno (List (Name × NodeKind)) → Prop where
  /-- Both fail in the same way. -/
  | fault (e : Errno) : Shows extra (.error e) (.error e)
  /-- Both show something. -/
  | listed (entries entries' : List (Name × NodeKind))
      (nodup : (entries.map Prod.fst).Nodup)
      (same : looked entries' = (looked entries).filter fun e => ! extra e.1)
      (file_of_extra : ∀ e ∈ looked entries, extra e.1 = true → e.2 = .file) :
      Shows extra (.ok entries) (.ok entries')

/-- A relation between the states of two walks from a root that every step keeps.  `Known` tells
what is known of an address that a listing has shown with some kind. -/
structure Simulates (root : Path) (system : σ → FileSystem) (meet : σ → WalkItem → σ)
    (system' : τ → FileSystem) (meet' : τ → WalkItem → τ) (Known : Location → NodeKind → Prop)
    (extra : Location → Bool) (R : Set Location → σ → τ → Prop) : Prop where
  /-- A directory shows the same to both walks before anything below it was met. -/
  shows : ∀ {met s t a}, R met s t → Known a .directory → (∀ x ∈ met, ¬ a <+: x) →
    Shows (fun name => extra (a ++ [name])) ((system s).list (root.descend a))
      ((system' t).list (root.descend a))
  /-- What the first walk is shown is known. -/
  known : ∀ {met s t a entries}, R met s t → Known a .directory → (∀ x ∈ met, ¬ a <+: x) →
    (system s).list (root.descend a) = .ok entries → ∀ e ∈ entries, Known (a ++ [e.1]) e.2
  /-- Both walks take the same links for files. -/
  link : ∀ {met s t a}, R met s t → Known a .link →
    (system s).isFile (root.descend a) = (system' t).isFile (root.descend a)
  /-- Both walks meet a file. -/
  file : ∀ {met s t a kind}, R met s t → Known a kind → kind = .file ∨ kind = .link →
    (∀ x ∈ met, ¬ a <+: x) → extra a = false →
    R (insert a met) (meet s (.file (.ofPath (root.descend a))))
      (meet' t (.file (.ofPath (root.descend a))))
  /-- The first walk meets a file that is not there for the second one. -/
  more : ∀ {met s t a}, R met s t → Known a .file → (∀ x ∈ met, ¬ a <+: x) → extra a = true →
    R (insert a met) (meet s (.file (.ofPath (root.descend a)))) t
  /-- Both walks meet a directory that they cannot look into. -/
  fault : ∀ {met s t a e}, R met s t → Known a .directory →
    (system s).list (root.descend a) = .error e →
    R met (meet s (.fault (root.descend a) e)) (meet' t (.fault (root.descend a) e))

/-! ## Folds over listings -/

lemma visit_pipe (system : σ → FileSystem) (meet : σ → WalkItem → σ) (depth : Nat) (s : σ)
    (p : Path) : visit system meet depth s p .pipe = s := by
  cases depth <;> rfl

lemma visit_file (system : σ → FileSystem) (meet : σ → WalkItem → σ) (depth : Nat) (s : σ)
    (p : Path) : visit system meet depth s p .file = meet s (.file (.ofPath p)) := by
  cases depth <;> rfl

lemma visit_link (system : σ → FileSystem) (meet : σ → WalkItem → σ) (depth : Nat) (s : σ)
    (p : Path) : visit system meet depth s p .link =
      if (system s).isFile p then meet s (.file (.ofPath p)) else s := by
  cases depth <;> rfl

/-- What is passed over in a listing makes no difference. -/
lemma foldl_looked {f : σ → Name × NodeKind → σ} (hf : ∀ s e, e.2 = .pipe → f s e = s)
    (entries : List (Name × NodeKind)) (s : σ) :
    (looked entries).foldl f s = entries.foldl f s := by
  induction entries generalizing s with
  | nil => rfl
  | cons e entries ih =>
    unfold looked at ih ⊢
    by_cases he : e.2 = .pipe
    · rw [List.filter_cons_of_neg (by simpa using he), ih, List.foldl_cons, hf s e he]
    · rw [List.filter_cons_of_pos (by simpa using he), List.foldl_cons, List.foldl_cons, ih]

/-- An invariant of two loops over the same list, which may speak of what was gone through. -/
lemma foldl_rel {α : Type} {l : List α} {f : σ → α → σ} {g : τ → α → τ}
    {I : List α → σ → τ → Prop} {s : σ} {t : τ} (h : I [] s t)
    (hstep : ∀ done x rest s t, l = done ++ x :: rest → I done s t →
      I (done ++ [x]) (f s x) (g t x)) :
    I l (l.foldl f s) (l.foldl g t) := by
  suffices hrest : ∀ rest done s t, done ++ rest = l → I done s t →
      I l (rest.foldl f s) (rest.foldl g t) from hrest l [] s t rfl h
  intro rest
  induction rest with
  | nil =>
    intro done s t hdone hI
    rwa [← hdone, List.append_nil]
  | cons x rest ih =>
    intro done s t hdone hI
    refine ih (done ++ [x]) _ _ (by rw [List.append_assoc]; exact hdone) ?_
    exact hstep done x rest s t hdone.symm hI

/-! ## The simulation -/

section

variable {root : Path} {system : σ → FileSystem} {meet : σ → WalkItem → σ}
  {system' : τ → FileSystem} {meet' : τ → WalkItem → τ} {Known : Location → NodeKind → Prop}
  {extra : Location → Bool} {R : Set Location → σ → τ → Prop}

/-- What two walks do side by side at an address: the relation holds again, and only what lies at
or below the address has been met. -/
def Related (R : Set Location → σ → τ → Prop) (met : Set Location) (a : Location) (s : σ) (t : τ) :
    Prop :=
  ∃ met', (∀ x ∈ met', x ∈ met ∨ a <+: x) ∧ R met' s t

lemma Related.insert {met : Set Location} {a : Location} {s : σ} {t : τ}
    (h : R (insert a met) s t) : Related R met a s t := by
  refine ⟨_, fun x hx => ?_, h⟩
  rcases Set.mem_insert_iff.1 hx with rfl | hx
  · exact .inr (List.prefix_refl x)
  · exact .inl hx

lemma concat_prefix_disjoint {a x : Location} {name other : Name} (hne : other ≠ name)
    (h : a ++ [other] <+: x) : ¬ a ++ [name] <+: x := by
  intro h'
  have hlength : (a ++ [other]).length = (a ++ [name]).length := by simp
  have heq := (List.prefix_of_prefix_length_le h h' hlength.le).eq_of_length hlength
  exact hne (by simpa using heq)

/-- What is no directory is met by both walks or by none. -/
lemma leaf_simulates (h : Simulates root system meet system' meet' Known extra R) (depth : Nat)
    {met : Set Location} {s : σ} {t : τ} {a : Location} {kind : NodeKind} (hR : R met s t)
    (ha : Known a kind) (hkind : kind ≠ .directory) (hnew : ∀ x ∈ met, ¬ a <+: x)
    (hextra : extra a = false) :
    Related R met a (visit system meet depth s (root.descend a) kind)
      (visit system' meet' depth t (root.descend a) kind) := by
  have hsame : Related R met a s t := ⟨met, fun x hx => .inl hx, hR⟩
  cases kind with
  | directory => exact absurd rfl hkind
  | pipe =>
    rw [visit_pipe, visit_pipe]
    exact hsame
  | file =>
    rw [visit_file, visit_file]
    exact .insert (h.file hR ha (.inl rfl) hnew hextra)
  | link =>
    rw [visit_link, visit_link, ← h.link hR ha]
    split
    · exact .insert (h.file hR ha (.inr rfl) hnew hextra)
    · exact hsame

/-- The relation is kept along the listing of a directory if it is kept at each entry. -/
lemma entries_simulate {met : Set Location} {a : Location}
    {f : σ → Name × NodeKind → σ} {g : τ → Name × NodeKind → τ}
    (entries : List (Name × NodeKind)) (nodup : (entries.map Prod.fst).Nodup)
    (hstep : ∀ e ∈ entries, ∀ met s t, R met s t → (∀ x ∈ met, ¬ a ++ [e.1] <+: x) →
      Related R met (a ++ [e.1]) (f s e) (g t e))
    {s : σ} {t : τ} (hR : R met s t) (hnew : ∀ x ∈ met, ¬ a <+: x) :
    Related R met a (entries.foldl f s) (entries.foldl g t) := by
  -- what has been met since lies at or below one of the entries gone through
  let I (done : List (Name × NodeKind)) (s : σ) (t : τ) : Prop :=
    ∃ met', (∀ x ∈ met', x ∈ met ∨ ∃ e ∈ done, a ++ [e.1] <+: x) ∧ R met' s t
  have hI : I entries (entries.foldl f s) (entries.foldl g t) := by
    refine foldl_rel ⟨met, fun x hx => .inl hx, hR⟩ fun done e rest s t hentries hI => ?_
    obtain ⟨met', hmet', hR'⟩ := hI
    have hfresh : ∀ x ∈ met', ¬ a ++ [e.1] <+: x := by
      intro x hx hstart
      rcases hmet' x hx with hx | ⟨e', he', hstart'⟩
      · exact hnew x hx ((List.prefix_append _ _).trans hstart)
      · have hne : e'.1 ≠ e.1 := by
          rw [hentries, List.map_append, List.map_cons, List.nodup_append] at nodup
          exact nodup.2.2 e'.1 (List.mem_map_of_mem he') e.1 List.mem_cons_self
        exact concat_prefix_disjoint hne hstart' hstart
    obtain ⟨met'', hmet'', hR''⟩ := hstep e (by simp [hentries]) met' s t hR' hfresh
    refine ⟨met'', fun x hx => ?_, hR''⟩
    rcases hmet'' x hx with hx | hstart
    · rcases hmet' x hx with hx | ⟨e', he', hstart'⟩
      · exact .inl hx
      · exact .inr ⟨e', List.mem_append_left _ he', hstart'⟩
    · exact .inr ⟨e, List.mem_append_right _ List.mem_cons_self, hstart⟩
  obtain ⟨met', hmet', hR'⟩ := hI
  refine ⟨met', fun x hx => ?_, hR'⟩
  rcases hmet' x hx with hx | ⟨e, -, hstart⟩
  · exact .inl hx
  · exact .inr ((List.prefix_append _ _).trans hstart)

/-- The relation holds again after both walks have gone through what lies at an address. -/
theorem visit_simulates (h : Simulates root system meet system' meet' Known extra R)
    {depth : Nat} {met : Set Location} {s : σ} {t : τ} {a : Location} {kind : NodeKind}
    (hR : R met s t) (ha : Known a kind) (hnew : ∀ x ∈ met, ¬ a <+: x) (hextra : extra a = false) :
    Related R met a (visit system meet depth s (root.descend a) kind)
      (visit system' meet' depth t (root.descend a) kind) := by
  induction depth generalizing met s t a kind with
  | zero =>
    by_cases hkind : kind = .directory
    · subst hkind
      exact ⟨met, fun x hx => .inl hx, hR⟩
    · exact leaf_simulates h 0 hR ha hkind hnew hextra
  | succ depth ih =>
    by_cases hkind : kind = .directory
    · subst hkind
      -- what the walks are shown is all that matters of the two file systems
      have hshows := h.shows hR ha hnew
      have hknown : ∀ entries, (system s).list (root.descend a) = .ok entries →
          ∀ e ∈ entries, Known (a ++ [e.1]) e.2 := fun _ => h.known hR ha hnew
      have hfault : ∀ e, (system s).list (root.descend a) = .error e →
          R met (meet s (.fault (root.descend a) e)) (meet' t (.fault (root.descend a) e)) :=
        fun _ => h.fault hR ha
      rw [visit, visit]
      generalize (system s).list (root.descend a) = look at hshows hknown hfault ⊢
      generalize (system' t).list (root.descend a) = look' at hshows ⊢
      cases hshows with
      | fault e => exact ⟨met, fun x hx => .inl hx, hfault e rfl⟩
      | listed entries entries' nodup same file_of_extra =>
        simp only
        rw [← foldl_looked (fun s e he => by rw [he, visit_pipe]) entries,
          ← foldl_looked (fun t e he => by rw [he, visit_pipe]) entries', same, List.foldl_filter]
        have hsub : ∀ e ∈ looked entries, e ∈ entries := fun e he => (List.mem_filter.1 he).1
        refine entries_simulate (looked entries)
          (nodup.sublist (List.filter_sublist.map Prod.fst)) (fun e he met s t hR hnew => ?_) hR hnew
        have hknown' := hknown entries rfl e (hsub e he)
        rw [← Path.descend_concat]
        -- an entry that only the second walk is shown is a file
        cases hextra : extra (a ++ [e.1]) with
        | false => exact ih hR hknown' hnew hextra
        | true =>
          rw [file_of_extra e he hextra] at hknown' ⊢
          rw [visit_file]
          exact .insert (h.more hR hknown' hnew hextra)
    · exact leaf_simulates h _ hR ha hkind hnew hextra

end

/-! ## From the root -/

/-- What a walk from a root meets while a state passes through it. -/
def met (system : σ → FileSystem) (meet : σ → WalkItem → σ) (root : Path) (s : σ) :
    List WalkItem :=
  fold (fun items => system (items.foldl meet s)) (fun items item => items ++ [item]) root []

/-- A walk from a root that leads to a directory goes through that directory. -/
lemma fold_eq_visit {system : σ → FileSystem} {meet : σ → WalkItem → σ} {root : Path} {s : σ}
    (h : (system s).isDirectory root = true) :
    fold system meet root s = visit system meet maxDepth s root .directory := by
  obtain ⟨loc, n, hresolve, hdir⟩ := FileSystem.isDirectory_path_iff.1 h
  have hstatus : (system s).status root = .ok n := FileSystem.status_eq_ok_iff.2 ⟨loc, hresolve⟩
  have hkind : n.kind = .directory := of_decide_eq_true hdir
  unfold fold
  rcases FileSystem.linkStatus_of_status hstatus with hlink | ⟨target, hlink⟩
  · rw [hlink]
    cases n with
    | directory mode es => rfl
    | file mode contents => simp [Node.kind] at hkind
    | link target => simp [Node.kind] at hkind
    | pipe mode => simp [Node.kind] at hkind
  · rw [hlink, hstatus]
    simp only [hdir, if_true]

/-- The relation holds after two walks from a root that leads both to a directory. -/
theorem fold_simulates {root : Path} {system : σ → FileSystem} {meet : σ → WalkItem → σ}
    {system' : τ → FileSystem} {meet' : τ → WalkItem → τ} {Known : Location → NodeKind → Prop}
    {extra : Location → Bool} {R : Set Location → σ → τ → Prop} {s : σ} {t : τ}
    (h : Simulates root system meet system' meet' Known extra R)
    (hs : (system s).isDirectory root = true) (ht : (system' t).isDirectory root = true)
    (hR : R ∅ s t) (hroot : Known [] .directory) (hextra : extra [] = false) :
    ∃ met, R met (fold system meet root s) (fold system' meet' root t) := by
  rw [fold_eq_visit hs, fold_eq_visit ht]
  have hvisit : Related R ∅ [] (visit system meet maxDepth s (root.descend []) .directory)
      (visit system' meet' maxDepth t (root.descend []) .directory) :=
    visit_simulates h hR hroot (fun x hx => absurd hx (Set.notMem_empty x)) hextra
  obtain ⟨met, -, hmet⟩ := hvisit
  exact ⟨met, hmet⟩

end Walk

end Sidecars
