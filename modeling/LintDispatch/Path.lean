import LintDispatch.Text.Blank

/-!
# Paths
A path is a byte string in which slashes separate names. The functions here work on the spelling
alone and never ask whether a file exists.
-/

namespace LintDispatch

/-- A path as it is spelled. -/
abbrev Path := Bytes

namespace Path

/-- The byte of the slash. -/
def slash : UInt8 := 47

/-- The path starts at the root. -/
def isAbsolute (p : Path) : Bool := p.head? == some slash

/-- The path `p` as seen from the directory `base`: an absolute `p` stands for itself, an empty base
adds nothing, and one slash separates the two otherwise. -/
def join (base p : Path) : Path :=
  if p.isAbsolute then p
  else if base.isEmpty then p
  else if base.getLast? == some slash then base ++ p
  else base ++ slash :: p

@[simp] theorem join_nil_left (p : Path) : join [] p = p := by
  simp [join]

theorem join_of_isAbsolute {base p : Path} (h : p.isAbsolute = true) : join base p = p := by
  simp [join, h]

/-- A part of a path, read from left to right. -/
inductive Component where
  /-- The root, at the start of an absolute path. -/
  | root
  /-- The directory itself, which counts only at the start of a path. -/
  | here
  /-- The directory above. -/
  | up
  /-- A name. -/
  | name (bytes : Bytes)
  deriving DecidableEq, Repr

/-- The component that a name between two slashes stands for. -/
def component : Bytes → Option Component
  | [] => none
  | [46] => none
  | [46, 46] => some .up
  | bs => some (.name bs)

/-- What counts at the start of the path although it names nothing: the root, or a leading dot. -/
def lead (p : Path) : Path :=
  if p.isAbsolute then [slash]
  else if (Bytes.splitOn slash p).head? == some [46] then [46]
  else []

/-- The stretches between the slashes after the lead. -/
def segments (p : Path) : List Bytes := Bytes.splitOn slash (p.drop p.lead.length)

/-- The components of the path. Repeated slashes, a slash at the end and inner dots do not count, so
two spellings of one route have the same components. -/
def components (p : Path) : List Component :=
  (if p.isAbsolute then [.root] else if p.lead.isEmpty then [] else [.here]) ++
    p.segments.filterMap component

/-- The two paths spell the same route. -/
def sameRoute (p q : Path) : Bool := decide (p.components = q.components)

/-- The path without its last component and without what does not count before it, spelled as `p`
spells it. The root and the empty path have no parent. -/
def parent? (p : Path) : Option Path :=
  let idle := fun s : Bytes => (component s).isNone
  match p.segments.reverse.dropWhile idle with
  | [] => if p.lead == [46] then some [] else none
  | _ :: above => some (p.lead ++ Bytes.join [slash] (above.dropWhile idle).reverse)

end Path

end LintDispatch
