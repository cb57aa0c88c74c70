import DirectoryAccess.Decimal.Shortest
import DirectoryAccess.Fault

/-!
# Search filters

A filter is a tree of conditions on the attributes of an entry, and `Filter.encode` is its text on the
wire. A value stands in the text with its reserved characters escaped, so that no value can be taken
for a part of the filter's structure; in a pattern the stars alone keep their meaning.
-/

namespace DirectoryAccess

/-- The value that an attribute is compared with. -/
inductive FilterValue where
  /-- A text. -/
  | text (s : String)
  /-- An integer of 64 bits. -/
  | integer (n : Int64)
  /-- A finite floating point number. -/
  | decimal (x : Binary64) (finite : x.isFinite = true)
  deriving DecidableEq, Repr

/-- A floating point number as a value, if it is finite. -/
def FilterValue.ofBinary64 (x : Binary64) : Except Fault FilterValue :=
  if h : x.isFinite = true then .ok (.decimal x h)
  else .error (.invalidFilter s!"{x.render} is not a finite number")

/-- How an attribute is compared with a value. -/
inductive Comparison where
  /-- The attribute has the value. -/
  | equal
  /-- The attribute has a value that is at most the given one. -/
  | atMost
  /-- The attribute has a value that is at least the given one. -/
  | atLeast
  /-- The attribute has a value that is nearly the given one. -/
  | approximate
  deriving DecidableEq, Repr

/-- The sign of a comparison. -/
def Comparison.sign : Comparison → String
  | .equal => "="
  | .atMost => "<="
  | .atLeast => ">="
  | .approximate => "~="

/-- A condition on the attributes of an entry. -/
inductive Filter where
  /-- The attribute compares so with the value. -/
  | compare (attr : String) (comparison : Comparison) (value : FilterValue)
  /-- The attribute is present. -/
  | present (attr : String)
  /-- The attribute has a value of the given pattern, in which stars stand for any text. -/
  | like (attr : String) (pattern : String)
  /-- All conditions hold. -/
  | all (filters : List Filter)
  /-- One of the conditions holds. -/
  | any (filters : List Filter)
  /-- The condition does not hold. -/
  | negation (filter : Filter)
  /-- A filter that the caller has written out. -/
  | raw (text : String)

/-! ### The text of a filter -/

/-- The form in which a character of a value stands in a filter. -/
def escapeFilterChar : Char → List Char
  | '*' => ['\\', '2', 'a']
  | '(' => ['\\', '2', '8']
  | ')' => ['\\', '2', '9']
  | '\\' => ['\\', '5', 'c']
  | '\x00' => ['\\', '0', '0']
  | c => [c]

/-- The form in which a value stands in a filter. -/
def escapeFilterText (s : List Char) : List Char := s.flatMap escapeFilterChar

/-- The form in which a pattern stands in a filter: stars are kept. -/
def escapePattern (s : List Char) : List Char :=
  s.flatMap fun c => if c = '*' then ['*'] else escapeFilterChar c

/-- The text of a value in a filter. -/
def FilterValue.encode : FilterValue → List Char
  | .text s => escapeFilterText s.toList
  | .integer n => (toString n.toInt).toList
  | .decimal x _ => x.render.toList

/-- The characters between two parentheses. -/
def inParens (s : List Char) : List Char := '(' :: (s ++ [')'])

mutual

/-- The text of a filter, as a list of characters. -/
def Filter.encode : Filter → List Char
  | .compare attr comparison value =>
    inParens (attr.toList ++ comparison.sign.toList ++ value.encode)
  | .present attr => inParens (attr.toList ++ ['=', '*'])
  | .like attr pattern => inParens (attr.toList ++ '=' :: escapePattern pattern.toList)
  | .all filters => inParens ('&' :: Filter.encodeList filters)
  | .any filters => inParens ('|' :: Filter.encodeList filters)
  | .negation filter => inParens ('!' :: filter.encode)
  | .raw text => text.toList

/-- The texts of several filters, one after the other. -/
def Filter.encodeList : List Filter → List Char
  | [] => []
  | filter :: rest => filter.encode ++ Filter.encodeList rest

end

instance : ToString Filter where
  toString f := String.ofList f.encode

/-! ### Equality -/

/-- Whether two values are equal; floating point numbers are compared as numbers. -/
def FilterValue.same : FilterValue → FilterValue → Bool
  | .text s, .text t => s == t
  | .integer m, .integer n => m == n
  | .decimal x _, .decimal y _ => x.numericallyEqual y
  | _, _ => false

mutual

/-- Whether two filters have the same structure and the same values. -/
def Filter.same : Filter → Filter → Bool
  | .compare a c v, .compare b d w => a == b && c == d && v.same w
  | .present a, .present b => a == b
  | .like a p, .like b q => a == b && p == q
  | .all fs, .all gs => Filter.sameList fs gs
  | .any fs, .any gs => Filter.sameList fs gs
  | .negation f, .negation g => f.same g
  | .raw s, .raw t => s == t
  | _, _ => false

/-- Whether two lists of filters agree one by one. -/
def Filter.sameList : List Filter → List Filter → Bool
  | [], [] => true
  | f :: fs, g :: gs => f.same g && Filter.sameList fs gs
  | _, _ => false

end

end DirectoryAccess
