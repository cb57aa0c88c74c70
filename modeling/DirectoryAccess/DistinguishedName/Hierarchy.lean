import DirectoryAccess.DistinguishedName.Basic

/-!
# The hierarchy of names

One name lies below another when the other is its end towards the root. What is left in front is the
name relative to it. Names are ordered from the root down, so that an ancestor comes before its
descendants and a subtree lies together.
-/

namespace DirectoryAccess

namespace DistinguishedName

/-- What is left of `n` in front of `base`, or `none` if `base` is not the end of `n` under the given
comparison of values. -/
def relativeToWith? (c : ValueComparison) (n base : DistinguishedName) : Option DistinguishedName :=
  let depth := n.length - base.length
  if base.length ≤ n.length ∧ matchesName c ⟨n.rdns.drop depth⟩ base then some ⟨n.rdns.take depth⟩
  else none

/-- What is left of `n` in front of `base`, or `none` if `n` is neither `base` nor below it. -/
def relativeTo? (n base : DistinguishedName) : Option DistinguishedName :=
  n.relativeToWith? .caseSensitive base

/-- Whether `n` lies strictly below `ancestor`. -/
def isBelow (n ancestor : DistinguishedName) : Bool :=
  ancestor.length < n.length && (n.relativeTo? ancestor).isSome

/-- Whether `descendant` lies strictly below `n`. -/
def isAbove (n descendant : DistinguishedName) : Bool := descendant.isBelow n

/-- Whether `n` is an immediate child of `parent`. -/
def isChildOf (n parent : DistinguishedName) : Bool :=
  n.length == parent.length + 1 && n.isBelow parent

end DistinguishedName

/-! ### Order -/

/-- Pairs of texts are ordered by the first text, then by the second. -/
def comparePairs (p q : String × String) : Ordering :=
  (compare p.1 q.1).then (compare p.2 q.2)

/-- Lists are ordered by their first difference; a list comes after its beginnings. -/
def compareLists {α : Type} (cmp : α → α → Ordering) : List α → List α → Ordering
  | [], [] => .eq
  | [], _ :: _ => .lt
  | _ :: _, [] => .gt
  | a :: l, b :: m => (cmp a b).then (compareLists cmp l m)

/-- Relative names are ordered by what is compared of their parts, one part after the other. -/
instance : Ord RelativeName where
  compare r s := compareLists comparePairs (r.fold .caseSensitive) (s.fold .caseSensitive)

/-- Names are ordered from the root down, one relative name after the other. -/
instance : Ord DistinguishedName where
  compare m n :=
    compareLists (compareLists comparePairs)
      (m.fold .caseSensitive).reverse (n.fold .caseSensitive).reverse

end DirectoryAccess
