import TreeFetch.Error
import TreeFetch.PathText

/-!
# Destinations

The destination of a file is a path text below the output directory. A path that climbs, or that
names nothing, has none: `destination` refuses it, so that what it accepts always lies strictly
below the output directory.
-/

namespace TreeFetch

/-- Where a file with the given path is saved below `base`. -/
def destination (base path : String) : Except Error String :=
  match PathText.segments? path with
  | none => .error (.unsafePath path)
  | some [] => .error (.unsafePath path)
  | some segments => .ok (PathText.pushAll base segments)

end TreeFetch
