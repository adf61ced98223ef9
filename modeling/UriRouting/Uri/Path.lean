import UriRouting.Text

/-!
# UriRouting.Uri.Path

The normal form of paths and how they are joined.

* `Uri.normalize` gives a path one slash at its start and none at its end. Slashes inside
  are kept, and nothing is decoded.
* `Uri.normalizeBase` does the same for the base path of a group, whose white space at
  the ends does not count.
* `Uri.join` puts a path below a base path.
-/

namespace UriRouting.Uri

/-- The path without the slashes at its ends. -/
def trimSlashes (path : Text) : Text :=
  path.strip (· == '/')

/-- The path with exactly one slash at its start and none at its end; a path of slashes
only becomes a single slash. A path of this form is given back as it is. -/
def normalize (path : Text) : Text :=
  let trimmed := trimSlashes path
  if (path.length == trimmed.length + 1 && path.head? == some '/') || path == ['/'] then path
  else '/' :: trimmed

/-- The normal form of a base path: white space around it is ignored. -/
def normalizeBase (base : Text) : Text :=
  let trimmed := base.trim
  if trimmed.isEmpty then ['/'] else normalize trimmed

/-- The path `uri` below the path `base`. -/
def join (base uri : Text) : Text :=
  normalize (base ++ normalize uri)

end UriRouting.Uri
