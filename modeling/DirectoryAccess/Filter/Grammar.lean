import DirectoryAccess.Text.Encoding

/-!
# The grammar of filters

What a client has to know of the text of a filter before it can send it: whether it is a filter at all.
A condition names an attribute, a comparison and a value; conditions are grouped by conjunctions,
disjunctions and negations in parentheses. A condition alone may stand without its parentheses.

`isWellFormed` reads the text one character at a time, with a stack of the groups that are still open.
-/

namespace DirectoryAccess.Filter

/-! ### Attributes -/

/-- Whether a text is a descriptor such as `cn`: a letter, then letters, digits and hyphens. -/
def isDescriptor : List Char → Bool
  | [] => false
  | c :: rest => c.isAlpha && rest.all fun d => d.isAlphanum || d == '-'

/-- Whether a text is a decimal number without superfluous zeros. -/
def isPlainNumber (s : List Char) : Bool :=
  !s.isEmpty && s.all Char.isDigit && (s.length == 1 || s.head? != some '0')

/-- Whether a text names an attribute type or a rule: a descriptor, or numbers between dots. -/
def isTypeName (s : List Char) : Bool := isDescriptor s || (s.splitOn '.').all isPlainNumber

/-- Whether a text is an option of an attribute. -/
def isOption (s : List Char) : Bool := !s.isEmpty && s.all fun c => c.isAlphanum || c == '-'

/-- Whether a text describes an attribute: its type, then options after semicolons. -/
def isAttributeDescription (s : List Char) : Bool :=
  match s.splitOn ';' with
  | [] => false
  | type :: options => isTypeName type && options.all isOption

/-! ### Values -/

/-- Whether a text is a value or a part of one: no reserved character, and a backslash only before two
hexadecimal digits. -/
def isValuePart : List Char → Bool
  | [] => true
  | '\\' :: h :: l :: rest => (Text.hexByte? h l).isSome && isValuePart rest
  | c :: rest => !(['\\', '*', '(', ')', '\x00'].contains c) && isValuePart rest

/-- Whether a text is a value in which stars stand for any text; no two stars stand side by side. -/
def isPattern (s : List Char) : Bool :=
  let parts := s.splitOn '*'
  parts.all isValuePart && (parts.drop 1).dropLast.all (!·.isEmpty)

/-! ### Conditions -/

/-- The mark for the parts of the name. -/
def nameMark : List Char := ['d', 'n']

/-- Whether the parts between colons in front of an extensible match name an attribute, a rule, or both;
the mark for the parts of the name may come between. A rule that begins like the mark has to come after
the mark itself. -/
def isRuleTarget : List (List Char) → Bool
  | [attr] => isAttributeDescription attr
  | [attr, rule] =>
    if rule = nameMark then isAttributeDescription attr
    else
      (attr.isEmpty || isAttributeDescription attr) && isTypeName rule && !nameMark.isPrefixOf rule
  | [attr, mark, rule] =>
    (attr.isEmpty || isAttributeDescription attr) && mark == nameMark && isTypeName rule
  | _ => false

/-- Whether a text is a condition, without its parentheses. -/
def isCondition (s : List Char) : Bool :=
  let front := s.takeWhile (· != '=')
  match s.dropWhile (· != '=') with
  | [] => false
  | _ :: value =>
    match front.getLast? with
    | some '<' | some '>' | some '~' => isAttributeDescription front.dropLast && isValuePart value
    | some ':' => isRuleTarget (front.dropLast.splitOn ':') && isValuePart value
    | _ => isAttributeDescription front && isPattern value

/-! ### The whole text -/

/-- A group that has been opened. -/
inductive OpenGroup where
  /-- A conjunction or disjunction, of any number of members. -/
  | members
  /-- A negation, and whether its one member has been read. -/
  | negation (complete : Bool)
  deriving DecidableEq, Repr

/-- How far the text has been read. The groups are listed from the innermost out. -/
inductive GrammarState where
  /-- A filter or the end of a group comes next. -/
  | between (groups : List OpenGroup)
  /-- A parenthesis has been opened. -/
  | opened (groups : List OpenGroup)
  /-- A condition is being read; its characters are listed from the last one back. -/
  | condition (groups : List OpenGroup) (read : List Char)
  /-- The whole filter has been read. -/
  | finished
  deriving DecidableEq, Repr

/-- A filter has been read within the given groups. -/
def afterMember : List OpenGroup → Option GrammarState
  | [] => some .finished
  | .members :: groups => some (.between (.members :: groups))
  | .negation false :: groups => some (.between (.negation true :: groups))
  | .negation true :: _ => none

/-- Reads one character. -/
def GrammarState.read (state : GrammarState) (c : Char) : Option GrammarState :=
  match state, c with
  | .between (.members :: groups), ')' => afterMember groups
  | .between (.negation true :: groups), ')' => afterMember groups
  | .between groups, '(' => some (.opened groups)
  | .between _, _ => none
  | .opened groups, '&' => some (.between (.members :: groups))
  | .opened groups, '|' => some (.between (.members :: groups))
  | .opened groups, '!' => some (.between (.negation false :: groups))
  | .opened _, ')' => none
  | .opened groups, c => some (.condition groups [c])
  | .condition groups read, ')' => if isCondition read.reverse then afterMember groups else none
  | .condition groups read, c => some (.condition groups (c :: read))
  | .finished, _ => none

/-- Reads the characters of a text. -/
def GrammarState.readAll (state : GrammarState) (s : List Char) : Option GrammarState :=
  s.foldlM GrammarState.read state

/-- Whether a text is a filter, or a condition alone. -/
def isWellFormed (text : String) : Bool :=
  isCondition text.toList || GrammarState.readAll (.between []) text.toList == some .finished

example : ["(&(cn=a*b)(!(n<=5)))", "(|)", "cn=*", "(cn;lang-de:dn:2.5.13.2:=x)"].all isWellFormed
    = true := by decide +kernel

example : ["", "(", ")", "(cn=a", "(cn=a))", "(cn)", "(=a)", "(&(cn=a)", "(!)", "(cn=a\\)",
    "(cn=\\zz)", "(cn=**)", " (cn=a)", "(cn=a(b)"].any isWellFormed = false := by decide +kernel

end DirectoryAccess.Filter
