import DirectoryAccess.Entry.Attributes
import DirectoryAccess.Text.Blank
import DirectoryAccess.Text.Encoding

/-!
# Evaluating the text of a filter

A directory that is handed the text of a filter decides for each entry whether the entry satisfies it.
Conjunction, disjunction, negation, equality and presence are understood. The text is read one character
at a time, with a stack of the groups that are still open; what a group holds is known as far as it has
been read. A text that is no filter is satisfied by no entry; a malformed escape in a condition is another
matter, for which the directory has no answer.
-/

namespace DirectoryAccess.Filter

/-- Why a text cannot be evaluated. -/
inductive EvaluationFault where
  /-- The text is no filter. -/
  | notAFilter
  /-- In the value of a condition an escape is malformed. -/
  | malformedEscape
  deriving DecidableEq, Repr

/-- A group that has been opened, and what is known of it so far. -/
inductive Group where
  /-- Whether all members so far hold. -/
  | all (soFar : Bool)
  /-- Whether one of the members so far holds. -/
  | any (soFar : Bool)
  /-- Whether the one member holds, if it has been read. -/
  | negation (member? : Option Bool)
  deriving DecidableEq, Repr

/-- How far the text has been read. The groups are listed from the innermost out. -/
inductive ReadState where
  /-- A filter or the end of a group comes next. -/
  | between (groups : List Group)
  /-- A parenthesis has been opened. -/
  | opened (groups : List Group)
  /-- A condition is being read; its characters are listed from the last one back. -/
  | condition (groups : List Group) (read : List Char)
  /-- The whole filter has been read. -/
  | finished (value : Bool)
  deriving DecidableEq, Repr

/-- The value of a filter that has been read goes to the group around it. -/
def deliver (value : Bool) : List Group → Except EvaluationFault ReadState
  | [] => .ok (.finished value)
  | .all soFar :: groups => .ok (.between (.all (soFar && value) :: groups))
  | .any soFar :: groups => .ok (.between (.any (soFar || value) :: groups))
  | .negation none :: groups => .ok (.between (.negation (some value) :: groups))
  | .negation (some _) :: _ => .error .notAFilter

/-! ### Conditions -/

/-- Frees a value of its escapes, each of which stands for the character with the code that one or two
hexadecimal digits give; a plus sign may stand in place of the first of two digits. -/
def unescapeCondition? : List Char → Option (List Char)
  | [] => some []
  | ['\\'] => none
  | ['\\', d] => do return [Char.ofNat (← Text.hexDigit? d)]
  | '\\' :: c :: d :: rest => do
    let code ← if c = '+' then Text.hexDigit? d else (Text.hexByte? c d).map UInt8.toNat
    return Char.ofNat code :: (← unescapeCondition? rest)
  | c :: rest => do return c :: (← unescapeCondition? rest)

/-- Whether the attributes satisfy the condition between two parentheses: the attribute before the first
equals sign has a value equal to the text after it up to letter case, or is present if that text is a
star. -/
def conditionHolds (a : Attributes) (text : List Char) : Except EvaluationFault Bool :=
  let attr := String.ofList (text.takeWhile (· != '='))
  match text.dropWhile (· != '=') with
  | [] => .error .notAFilter
  | [_, '*'] => .ok (a.contains attr)
  | _ :: value =>
    match unescapeCondition? value with
    | none => .error .malformedEscape
    | some wanted => .ok (((a.text? attr).getD []).any (Text.eqIgnoringCase (String.ofList wanted)))

/-! ### The whole text -/

/-- Reads one character. -/
def readChar (a : Attributes) (state : ReadState) (c : Char) : Except EvaluationFault ReadState :=
  match state, c with
  | .between (.all soFar :: groups), ')' => deliver soFar groups
  | .between (.any soFar :: groups), ')' => deliver soFar groups
  | .between (.negation (some member) :: groups), ')' => deliver (!member) groups
  | .between (.negation (some _) :: _), _ => .error .notAFilter
  | .between groups, '(' => .ok (.opened groups)
  | .between _, _ => .error .notAFilter
  | .opened groups, '&' => .ok (.between (.all true :: groups))
  | .opened groups, '|' => .ok (.between (.any false :: groups))
  | .opened groups, '!' => .ok (.between (.negation none :: groups))
  | .opened _, ')' => .error .notAFilter
  | .opened groups, c => .ok (.condition groups [c])
  | .condition groups read, ')' => (conditionHolds a read.reverse).bind (deliver · groups)
  | .condition groups read, c => .ok (.condition groups (c :: read))
  | .finished _, _ => .error .notAFilter

/-- Reads the characters of a text. -/
def readChars (a : Attributes) : ReadState → List Char → Except EvaluationFault ReadState
  | state, [] => .ok state
  | state, c :: rest => (readChar a state c).bind fun state => readChars a state rest

/-- What the filter with the given text says of the attributes. Blanks around the text do not matter. -/
def evaluate (text : List Char) (a : Attributes) : Except EvaluationFault Bool :=
  match readChars a (.between []) (Text.trim text) with
  | .ok (.finished value) => .ok value
  | .ok _ => .error .notAFilter
  | .error fault => .error fault

/-- Whether the attributes satisfy the filter with the given text. -/
def accepts (text : String) (a : Attributes) : Bool :=
  match evaluate text.toList a with
  | .ok value => value
  | .error _ => false

/-- Whether an escape in the filter with the given text turns out to be malformed. -/
def stumbles (text : String) (a : Attributes) : Bool :=
  match evaluate text.toList a with
  | .error .malformedEscape => true
  | _ => false

end DirectoryAccess.Filter
