import Sidecars.Yaml.Value

/-!
# Metadata

What is known about a media file, as a mapping in the order in which the fields were found.
-/

namespace Sidecars

/-- The metadata of a media file, by the names of its fields. -/
abbrev Metadata := Yaml.Entries

end Sidecars
