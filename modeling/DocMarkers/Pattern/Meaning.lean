import DocMarkers.Pattern.CharSet
import DocMarkers.Pattern.Expression

/-! # What a pattern means

`Form.meaning` turns the form of a pattern into an expression. Flags hold up to the end of the group
that they stand in. Where the flag for Unicode is off, sets hold ASCII characters only: what would
match half a character is a fault.
-/

namespace DocMarkers.Pattern

/-- The flags that hold at a place of a pattern. -/
structure Options where
  ignoreCase : Bool
  multiLine : Bool
  dotAll : Bool
  unicode : Bool
  crlf : Bool

namespace Options

/-- The flags that hold at the start of a pattern. -/
def initial : Options where
  ignoreCase := false
  multiLine := false
  dotAll := false
  unicode := true
  crlf := false

/-- The flags after a change. -/
def apply (options : Options) (change : FlagChange) : Options where
  ignoreCase := (change.state? .ignoreCase).getD options.ignoreCase
  multiLine := (change.state? .multiLine).getD options.multiLine
  dotAll := (change.state? .dotAll).getD options.dotAll
  unicode := (change.state? .unicode).getD options.unicode
  crlf := (change.state? .crlf).getD options.crlf

end Options

/-- A set as it is written: without regard to case, if the flag is set, and turned round, if it is
negated. Turned round without Unicode it would match parts of characters. -/
def Options.finish (options : Options) (span : Span) (negated : Bool) (set : CharSet) :
    Except Fault CharSet :=
  let set := if options.ignoreCase then set.ignoringCase options.unicode else set
  if negated then
    if options.unicode then .ok set.complement else .error ⟨.notText, span⟩
  else .ok set

/-- The set that a query asks for. -/
def Options.property (options : Options) (span : Span) (negated : Bool) (query : Unicode.Query) :
    Except Fault CharSet :=
  if options.unicode then
    match query.answer with
    | .ok set => options.finish span negated set
    | .error .unknownProperty => .error ⟨.unknownProperty, span⟩
    | .error .unknownValue => .error ⟨.unknownPropertyValue, span⟩
  else .error ⟨.unicodeOff, span⟩

/-- The set that a shorthand stands for. The case does not matter for any of them. -/
def Options.shorthand (options : Options) (span : Span) (negated : Bool) (shorthand : Shorthand) :
    Except Fault CharSet :=
  { options with ignoreCase := false }.finish span negated (shorthand.set options.unicode)

/-- The character of a literal, which without Unicode must not be half a character. -/
def Options.literal (options : Options) (literal : Literal) : Except Fault Char :=
  if !options.unicode && literal.isByte && '\x80' ≤ literal.char then
    .error ⟨.notText, literal.span⟩
  else .ok literal.char

/-- A literal in a set, which without Unicode has to be in ASCII. -/
def Options.literalInSet (options : Options) (literal : Literal) : Except Fault Char := do
  let c ← options.literal literal
  if !options.unicode && '\x80' ≤ c then throw ⟨.unicodeOff, literal.span⟩
  return c

/-- Two sets, combined. -/
def SetOperation.apply : SetOperation → CharSet → CharSet → CharSet
  | intersection, left, right => fun c => left c && right c
  | difference, left, right => fun c => left c && !right c
  | symmetricDifference, left, right => fun c => left c != right c

mutual

/-- The characters that the form of a set stands for. -/
def SetForm.meaning (options : Options) : SetForm → Except Fault CharSet
  | .literal written => do
    let c ← options.literalInSet written
    return (· == c)
  | .range _ first last => do
    let low ← options.literalInSet first
    let high ← options.literalInSet last
    return fun c => low ≤ c && c ≤ high
  | .ascii span negated name => options.finish span negated name.holds
  | .property span negated query => options.property span negated query
  | .shorthand span negated named => options.shorthand span negated named
  | .bracketed span negated inner => do
    options.finish span negated (← inner.meaning options)
  | .union _ items => SetForm.unionMeaning options items
  | .combined span operation left right => do
    let left ← options.finish span false (← left.meaning options)
    let right ← options.finish span false (← right.meaning options)
    return operation.apply left right

/-- The characters that one of some forms stands for. -/
def SetForm.unionMeaning (options : Options) : List SetForm → Except Fault CharSet
  | [] => return fun _ => false
  | item :: items => do
    let set ← item.meaning options
    let others ← SetForm.unionMeaning options items
    return fun c => set c || others c

end

/-- What an edge of words asks of the characters before and behind it. -/
def WordEdge.holds (edge : WordEdge) (before behind : Bool) : Bool :=
  match edge with
  | .any => before != behind
  | .none => before == behind
  | .start => !before && behind
  | .stop => before && !behind
  | .halfStart => !before
  | .halfStop => !behind

/-- What an assertion asks of a gap. -/
def Options.look (options : Options) : Assertion → Look
  | .textStart => .textStart
  | .textEnd => .textEnd
  | .lineStart =>
    if options.multiLine then if options.crlf then .crlfLineStart else .lineStart else .textStart
  | .lineEnd =>
    if options.multiLine then if options.crlf then .crlfLineEnd else .lineEnd else .textEnd
  | .word edge => .words (Shorthand.word.set options.unicode) edge.holds

/-- The characters that a dot stands for. -/
def Options.dot (options : Options) : CharSet := fun c =>
  options.dotAll || (c != '\n' && !(options.crlf && c == '\r'))

/-- What an atom means. -/
def Atom.meaning (options : Options) : Atom → Except Fault Expression
  | .literal written => do
    let c ← options.literal written
    let set : CharSet := (· == c)
    return .one (if options.ignoreCase then set.ignoringCase options.unicode else set)
  | .dot span => if options.unicode then .ok (.one options.dot) else .error ⟨.notText, span⟩
  | .assertion _ asserted => .ok (.look (options.look asserted))
  | .property span negated query => return .one (← options.property span negated query)
  | .shorthand span negated named => return .one (← options.shorthand span negated named)

mutual

/-- What a form means, and the flags that hold behind it. -/
def Form.meaning (options : Options) : Form → Except Fault (Expression × Options)
  | .empty => return (.empty, options)
  | .flags change => return (.empty, options.apply change)
  | .atom written => return (← written.meaning options, options)
  | .bracketed span negated inner =>
    return (.one (← options.finish span negated (← inner.meaning options)), options)
  | .repetition _ count body => do
    let (body, options) ← body.meaning options
    return (.repeated count.least count.most body, options)
  | .group _ _ change body => return ((← body.meaning (options.apply change)).1, options)
  | .row _ parts => Form.rowMeaning options parts
  | .choice _ branches => Form.choiceMeaning options branches

/-- What forms mean that follow one another. -/
def Form.rowMeaning (options : Options) : List Form → Except Fault (Expression × Options)
  | [] => return (.empty, options)
  | part :: parts => do
    let (first, options) ← part.meaning options
    let (more, options) ← Form.rowMeaning options parts
    return (.row first more, options)

/-- What a choice between forms means. -/
def Form.choiceMeaning (options : Options) : List Form → Except Fault (Expression × Options)
  | [] => return (.one fun _ => false, options)
  | branch :: branches => do
    let (first, options) ← branch.meaning options
    let (more, options) ← Form.choiceMeaning options branches
    return (.either first more, options)

end

end DocMarkers.Pattern
