import Sidecars.Proofs.Scan.Isolation
import Sidecars.Proofs.Sidecar.Atomicity

/-!
# What becomes of a recording

A recording always has metadata: its artist, its album and its title, null where no text is known.
So a recording never goes without a sidecar unless something goes wrong, and then nothing is
different afterwards.

* `Audio.metadata_eq_ok_iff` is the metadata of a recording, and `Audio.portable_describe` says that
  any text in it survives being written;
* `read_process` reads the sidecar that was written for a file;
* `process_recording` puts them together.
-/

namespace Sidecars

/-! ## The metadata of a recording -/

namespace Audio

variable {p : Path} {file : Bytes} {m : Metadata}

/-- What the tag that counts says becomes the metadata. -/
lemma metadata_eq_ok_iff :
    metadata p file = .ok m ↔ ∃ format tags, Format.ofPath? p = some format ∧
      format.tags file = .ok tags ∧ m = describe (countedTag? format tags) := by
  rw [metadata]
  cases hformat : Format.ofPath? p with
  | none => simp
  | some format =>
    cases htags : format.tags file with
    | error e => simp [htags, Bind.bind, Except.bind]
    | ok tags => simp [htags, Bind.bind, Except.bind, pure, Except.pure, eq_comm]

/-- No text is lost when the metadata of a recording is written. -/
lemma portable_describe (tag : Option Tag) : Yaml.Portable 127 (.mapping (describe tag)) := by
  have hvalue (text : Option String) : Yaml.Portable 126 (textValue text) := by
    cases text with
    | none => exact .null 126
    | some s => exact .string 126 s
  refine .mapping ?_ ?_ ?_
  · simp [describe]
  · simp [describe]
  · simp [describe, hvalue]

end Audio

/-- A recording that can be read has metadata. -/
lemma exists_metadata_of_audioExtractor {fs : FileSystem} {p : Path} {finding : Finding}
    (h : audioExtractor fs p = .ok finding) :
    ∃ contents m, fs.read p = .ok contents ∧ Audio.metadata p contents = .ok m ∧
      finding = .metadata m := by
  rw [audioExtractor] at h
  split at h
  · cases h
  · cases h
  · rename_i contents hread
    split at h
    · cases h
    · rename_i m hm
      exact ⟨contents, m, hread, hm, (Except.ok.inj h).symm⟩

/-- Only recordings go the route for audio. -/
lemma Dispatcher.extractor_of_audio {file : MediaFile} {route : Route}
    (h : standard.route? file = some route) (hkind : route.kind = .audio) :
    route.extractor = audioExtractor := by
  have hmem := mem_of_route? h
  simp only [standard, register, List.nil_append, List.mem_append, List.mem_singleton] at hmem
  rcases hmem with rfl | rfl
  · cases hkind
  · rfl

/-! ## The sidecar of a file -/

section

variable {d : Dispatcher} {fs : FileSystem} {file : MediaFile}

/-- A sidecar that was written for a file is read back, unless its path led through the symbolic
link of which it took the place. -/
lemma read_process {route : Route} {m : Metadata} {s : Path} (hroute : d.route? file = some route)
    (hextract : route.extractor fs file.path = .ok (.metadata m))
    (hm : Yaml.Portable 127 (.mapping m)) (h : (process d fs file).outcome = .written s) :
    if Sidecar.leadsThroughItself fs s then
      ∃ e, Sidecar.read (process d fs file).system s = .error (.io (.os e))
    else Sidecar.read (process d fs file).system s = .ok m := by
  obtain ⟨route', m', text, place, hroute', hextract', htext, rfl, hplace, hbecomes⟩ :=
    process_written h
  obtain ⟨xs, bs, hbs, hsteps⟩ := Sidecar.steps_pathFor file.path
  obtain rfl : route = route' := Option.some.inj (hroute.symm.trans hroute')
  obtain rfl : m = m' := by
    rw [hextract] at hextract'
    exact Finding.metadata.inj (Except.ok.inj hextract')
  split
  · -- nothing stands any more where the path went on
    rename_i hway
    obtain ⟨e, he⟩ := Sidecar.read_error_of_becomes hsteps hplace hbecomes hway
    exact ⟨e, by rw [Sidecar.read, he]⟩
  · -- the sidecar holds the text of the metadata, from which this is parsed
    rename_i hway
    rw [Frontmatter.render, Frontmatter.renderChars_eq hm] at htext
    obtain rfl := Except.ok.inj htext
    rw [Sidecar.read, Sidecar.read_of_becomes hsteps hplace hbecomes (by simpa using hway),
      Text.Utf8.encode, String.toList_ofList]
    exact Sidecar.ofContents_encodeChars hm _

/-- Where everything that can be found is metadata, there is a sidecar or a failure. -/
lemma written_or_failed {route : Route} (hroute : d.route? file = some route)
    (h : ∀ finding, route.extractor fs file.path = .ok finding → ∃ m, finding = .metadata m) :
    (∃ s, (process d fs file).outcome = .written s) ∨
      ∃ e, (process d fs file).outcome = .failed e := by
  cases hextract : route.extractor fs file.path with
  | error e => exact .inr ⟨e, by simp [process, hroute, hextract]⟩
  | ok finding =>
    obtain ⟨m, rfl⟩ := h finding hextract
    rw [(process_metadata hroute hextract).1]
    split
    · exact .inl ⟨_, rfl⟩
    · exact .inr ⟨_, rfl⟩

end

/-! ## Recordings -/

section

open Audio

/-- A recording has a sidecar with three fields, or something goes wrong with it and nothing is
different afterwards.  The fields are the artist, the album and the title, in this order.  Each is
the very text that the tag proper to the format has for it, or else the first tag, and null where
there is no such text.  They are read from the sidecar, unless its path led through the symbolic
link of which the sidecar took the place. -/
theorem process_recording {fs : FileSystem} {p : Path} {mode : Nat} {contents : Bytes}
    {route : Route} (hfile : fs.status p = .ok (.file mode contents))
    (hroute : Dispatcher.standard.route? (.ofPath p) = some route) (hkind : route.kind = .audio) :
    (process .standard fs (.ofPath p)).outcome ≠ .noMetadata ∧
      (∀ extension, (process .standard fs (.ofPath p)).outcome ≠ .unsupported extension) ∧
      (∀ s, (process .standard fs (.ofPath p)).outcome = .written s →
        ∃ format tags tag, Format.ofPath? p = some format ∧ format.tags contents = .ok tags ∧
          tag = (tags.find? (·.kind = format.primaryKind)).or tags.head? ∧
          (tag = none ↔ tags = []) ∧
          if Sidecar.leadsThroughItself fs s then
            ∃ e, Sidecar.read (process .standard fs (.ofPath p)).system s = .error (.io (.os e))
          else
            Sidecar.read (process .standard fs (.ofPath p)).system s =
              .ok [(.string "artist", textValue (tag.bind (·.text? .artist))),
                (.string "album", textValue (tag.bind (·.text? .album))),
                (.string "title", textValue (tag.bind (·.text? .title)))]) ∧
      ∀ e, (process .standard fs (.ofPath p)).outcome = .failed e →
        (process .standard fs (.ofPath p)).system = fs := by
  have hextractor := Dispatcher.extractor_of_audio hroute hkind
  have hread : fs.read p = .ok contents := by
    rw [FileSystem.read, hfile]
    rfl
  -- whatever is found is metadata
  have hfound (finding : Finding) (h : route.extractor fs p = .ok finding) :
      ∃ m, Audio.metadata p contents = .ok m ∧ finding = .metadata m := by
    rw [hextractor] at h
    obtain ⟨contents', m, hread', hm, hfinding⟩ := exists_metadata_of_audioExtractor h
    rw [hread, Except.ok.injEq] at hread'
    exact ⟨m, hread' ▸ hm, hfinding⟩
  have houtcomes := written_or_failed hroute fun finding h =>
    (hfound finding h).imp fun m hm => hm.2
  refine ⟨?_, ?_, ?_, fun e he => process_not_written fun sidecar => by rw [he]; simp⟩
  · rcases houtcomes with ⟨s, hs⟩ | ⟨e, he⟩
    · simp [hs]
    · simp [he]
  · rcases houtcomes with ⟨s, hs⟩ | ⟨e, he⟩
    · simp [hs]
    · simp [he]
  · intro s hs
    -- what was written is what was found, and that is what the tag says
    obtain ⟨route', m, -, -, hroute', hextract, -⟩ := process_written hs
    obtain rfl : route = route' := Option.some.inj (hroute.symm.trans hroute')
    obtain ⟨m', hm, hsame⟩ := hfound _ hextract
    obtain rfl := Finding.metadata.inj hsame
    obtain ⟨format, tags, hformat, htags, rfl⟩ := metadata_eq_ok_iff.1 hm
    refine ⟨format, tags, countedTag? format tags, hformat, htags, rfl, ?_, ?_⟩
    · cases tags <;> simp [countedTag?]
    · exact read_process hroute hextract (portable_describe _) hs

/-! ## Two waves -/

/-- A WAV file with sixteen bytes of silence and some more chunks. -/
def wave (chunks : Bytes) : Bytes :=
  Binary.ascii "RIFF" ++ [UInt8.ofNat (52 + chunks.length), 0, 0, 0] ++ Binary.ascii "WAVE" ++
    Binary.ascii "fmt " ++ [16, 0, 0, 0] ++
      [1, 0, 1, 0, 0x40, 0x1F, 0, 0, 0x80, 0x3E, 0, 0, 2, 0, 16, 0] ++
    Binary.ascii "data" ++ [16, 0, 0, 0] ++ List.replicate 16 0 ++ chunks

/-- A list of information that calls the artist `null`. -/
def namedNull : Bytes :=
  Binary.ascii "LIST" ++ [18, 0, 0, 0] ++ Binary.ascii "INFO" ++
    Binary.ascii "IART" ++ [5, 0, 0, 0] ++ Binary.ascii "null" ++ [0, 0]

/-- The name `x.wav`. -/
def waveName : Name where
  bytes := Binary.ascii "x.wav"
  plain := by decide

/-- A file system with a recording by an artist of that name. -/
def waveSystem : FileSystem where
  root := .directory 0o755 [(waveName, .file 0o644 (wave namedNull))]
  current := []
  umask := 0o022

lemma exists_written_of_isWritten {o : Outcome} (h : o.isWritten = true) : ∃ s, o = .written s := by
  cases o with
  | written s => exact ⟨s, rfl⟩
  | noMetadata => cases h
  | unsupported extension => cases h
  | failed cause => cases h

/-- The name of the artist is read from the sidecar as the text that it is. -/
theorem process_recording_wave :
    ∃ s, (process .standard waveSystem (.ofPath ⟨waveName.bytes⟩)).outcome = .written s ∧
      Sidecar.read (process .standard waveSystem (.ofPath ⟨waveName.bytes⟩)).system s =
        .ok [(.string "artist", .string "null"), (.string "album", .null),
          (.string "title", .null)] := by
  have haudio : (Dispatcher.standard.route? (.ofPath ⟨waveName.bytes⟩)).map Route.kind =
      some .audio := by decide +kernel
  obtain ⟨route, hroute, hkind⟩ := Option.map_eq_some_iff.1 haudio
  have hfile : waveSystem.status ⟨waveName.bytes⟩ = .ok (.file 0o644 (wave namedNull)) := rfl
  obtain ⟨-, -, hwritten, -⟩ := process_recording hfile hroute hkind
  obtain ⟨s, hs⟩ := @exists_written_of_isWritten
    (process .standard waveSystem (.ofPath ⟨waveName.bytes⟩)).outcome (by decide +kernel)
  obtain ⟨-, -, -, -, -, -, -, hpath, -⟩ := process_written hs
  obtain ⟨format, tags, tag, hformat, htags, rfl, -, hread⟩ := hwritten s hs
  have hway : Sidecar.leadsThroughItself waveSystem s = false := by
    rw [hpath]
    decide +kernel
  obtain rfl : .wav = format := by
    have hwav : Format.ofPath? ⟨waveName.bytes⟩ = some .wav := by decide +kernel
    exact Option.some.inj (hwav.symm.trans hformat)
  obtain rfl : [⟨.riffInfo, [⟨.artist, some "null"⟩]⟩] = tags := by
    have hinfo : Format.wav.tags (wave namedNull) =
        .ok [⟨.riffInfo, [⟨.artist, some "null"⟩]⟩] := by decide +kernel
    exact Except.ok.inj (hinfo.symm.trans htags)
  rw [if_neg (by simp [hway])] at hread
  exact ⟨s, hs, hread⟩

/-- A file system with a recording, in which the sidecar of the recording is a link to the directory
where it stands. -/
def loopedSystem : FileSystem where
  root := .directory 0o755
    [(waveName, .file 0o644 (wave [])), (Sidecar.nameOf waveName, .link ⟨[Path.dot]⟩)]
  current := []
  umask := 0o022

/-- The path `x.wav.metadata.md/x.wav`, which leads to the recording through the link. -/
def loopedPath : Path := (Sidecar.pathFor ⟨waveName.bytes⟩).join waveName.bytes

/-- The sidecar of the recording takes the place of the link, and the path that is answered leads to
nothing. -/
theorem process_recording_through_link :
    loopedSystem.status loopedPath = .ok (.file 0o644 (wave [])) ∧
      (Dispatcher.standard.route? (.ofPath loopedPath)).map Route.kind = some .audio ∧
      ∃ s, (process .standard loopedSystem (.ofPath loopedPath)).outcome = .written s ∧
        Sidecar.read (process .standard loopedSystem (.ofPath loopedPath)).system s =
          .error (.io (.os .notDirectory)) := by
  obtain ⟨s, hs⟩ := @exists_written_of_isWritten
    (process .standard loopedSystem (.ofPath loopedPath)).outcome (by decide +kernel)
  obtain ⟨-, -, -, -, -, -, -, hpath, -⟩ := process_written hs
  obtain rfl : s = Sidecar.pathFor loopedPath := hpath
  refine ⟨rfl, by decide +kernel, _, hs, ?_⟩
  have hread : (process .standard loopedSystem (.ofPath loopedPath)).system.read
      (Sidecar.pathFor loopedPath) = .error .notDirectory := by
    decide +kernel
  rw [Sidecar.read, hread]

end

end Sidecars
