import Sidecars.Dispatch
import Sidecars.Proofs.Path.Extension

/-!
# The extension of a sidecar

Whatever a media file is called, its sidecar has the extension `md`, so a dispatcher that lists
`md` nowhere sends no sidecar on any route.
-/

namespace Sidecars

namespace Sidecar

open Binary

lemma segments_pathFor (media : Path) :
    ∃ pieces bs h, (pathFor media).segments = pieces ++ [(nameFor bs h).bytes] := by
  have hne := splitAt_ne_nil Path.slash media.bytes
  have hsplit : splitAt Path.slash media.bytes = _ := (List.dropLast_concat_getLast hne).symm
  have hlast := not_mem_of_mem_splitAt (List.getLast_mem hne)
  have hsuffix : Path.slash ∉ suffix := by rw [suffix_eq]; decide
  exact ⟨_, _, hlast, splitAt_append hsplit hsuffix⟩

/-- A sidecar has the extension `md`. -/
theorem extension_pathFor (media : Path) : (MediaFile.ofPath (pathFor media)).extension = "md" := by
  obtain ⟨pieces, bs, hbs, hsegments⟩ := segments_pathFor media
  have hname : (pathFor media).fileName? = some (bs ++ suffix) :=
    Path.fileName?_eq_some_iff_segments.2 ⟨⟨nameFor bs hbs, rfl⟩, pieces, [], hsegments, by simp⟩
  have hextension : (pathFor media).extension? = some (ascii "md") := by
    rw [Path.extension?, hname]
    have hsuffix : suffix = ascii ".metadata" ++ Path.dot :: ascii "md" := by decide
    refine Path.extensionOfName?_eq_some_iff.2 ⟨bs ++ ascii ".metadata", ?_, ?_, by decide⟩
    · rw [hsuffix, List.append_assoc]
    · exact List.append_ne_nil_of_right_ne_nil bs (by decide)
  rw [MediaFile.ofPath]
  simp only [hextension]
  decide

end Sidecar

/-- Whether no route of a dispatcher is for sidecars. -/
def Dispatcher.PassesSidecars (d : Dispatcher) : Prop :=
  ∀ route ∈ d, "md" ∉ route.extensions

namespace Dispatcher

variable {d : Dispatcher}

lemma route?_eq_none_of_extension (hd : d.PassesSidecars) {file : MediaFile}
    (h : file.extension = "md") : d.route? file = none := by
  unfold route?
  split
  · rfl
  · rw [List.find?_eq_none]
    intro route hroute hcontains
    rw [h, List.contains_iff_mem] at hcontains
    exact hd route hroute hcontains

lemma standard_passesSidecars : standard.PassesSidecars := by
  intro route hroute
  simp only [standard, register, List.nil_append, List.mem_append, List.mem_singleton] at hroute
  rcases hroute with rfl | rfl
  · decide
  · decide

end Dispatcher

end Sidecars
