import KusciaGrant.Types
import Mathlib.Algebra.Order.Ring.Nat
import Mathlib.Data.List.Basic

namespace KusciaGrant

/-- `[A-Za-z0-9]` -/
def isQnameChar (c : Char) : Bool := c.isAlphanum

/-- `[-A-Za-z0-9_.]` -/
def isQnameExtChar (c : Char) : Bool := c.isAlphanum || c = '-' || c = '_' || c = '.'

/-- `qualifiedNameFmt`: `([A-Za-z0-9][-A-Za-z0-9_.]*)?[A-Za-z0-9]`, matched by the whole string. -/
def matchesQualifiedName (s : List Char) : Bool :=
  match s.head?, s.getLast? with
  | some a, some b => isQnameChar a && isQnameChar b && s.all isQnameExtChar
  | _, _ => false

/-- `validation.IsValidLabelValue`: empty, or a qualified name of at most 63 characters. -/
def isValidLabelValue (s : String) : Bool :=
  s.length ≤ 63 && (s.isEmpty || matchesQualifiedName s.data)

/-- `dns1123LabelFmt`: `[a-z0-9]([-a-z0-9]*[a-z0-9])?` -/
def matchesDNS1123Label (s : List Char) : Bool :=
  let lowerAlnum (c : Char) : Bool := c.isLower || c.isDigit
  match s.head?, s.getLast? with
  | some a, some b => lowerAlnum a && lowerAlnum b && s.all (fun c => lowerAlnum c || c = '-')
  | _, _ => false

/-- `validation.IsDNS1123Subdomain`: at most 253 characters of dot-separated DNS labels. -/
def isDNS1123Subdomain (s : List Char) : Bool :=
  s.length ≤ 253 && (s.splitOn '.').all matchesDNS1123Label

/-- `validation.IsQualifiedName`: a name part of at most 63 characters, optionally after a
non-empty DNS subdomain and a slash. -/
def isQualifiedName (s : String) : Bool :=
  let namePart (n : List Char) : Bool := n.length ≤ 63 && matchesQualifiedName n
  match s.data.splitOn '/' with
  | [n] => namePart n
  | [pre, n] => !pre.isEmpty && isDNS1123Subdomain pre && namePart n
  | _ => false

/-- `strconv.ParseInt(s, 10, 64)`: an optional sign and decimal digits within `int64`. -/
def parseInt (s : String) : Option Int :=
  let (neg, digits) : Bool × List Char := match s.data with
    | '+' :: ds => (false, ds)
    | '-' :: ds => (true, ds)
    | ds => (false, ds)
  if digits.isEmpty || !digits.all Char.isDigit then none
  else
    let un := digits.foldl (fun acc c => acc * 10 + (c.toNat - '0'.toNat)) 0
    if !neg && 9223372036854775808 ≤ un then none
    else if neg && 9223372036854775808 < un then none
    else some (if neg then -(un : Int) else un)

/-- Go's `len(s)`: the bytes of the string's UTF-8 encoding. -/
def byteLen (s : List Char) : Nat := (s.map Char.utf8Size).sum

/-- `validation.EmptyError()` -/
def emptyError : String := "must be non-empty"

/-- `validation.MaxLenError(length)` -/
def maxLenError (length : Nat) : String := "must be no more than " ++ toString length ++ " characters"

/-- `validation.RegexError(msg, fmt, examples...)` -/
def regexError (msg fmt : String) (examples : List String) : String :=
  match examples with
  | [] => msg ++ " (regex used for validation is '" ++ fmt ++ "')"
  | _ => msg ++ " (e.g. " ++ " or ".intercalate (examples.map fun e => "'" ++ e ++ "', ") ++
    "regex used for validation is '" ++ fmt ++ "')"

def qualifiedNameFmt : String := "([A-Za-z0-9][-A-Za-z0-9_.]*)?[A-Za-z0-9]"

def qualifiedNameErrMsg : String :=
  "must consist of alphanumeric characters, '-', '_' or '.', and must start and end with an alphanumeric character"

def labelValueFmt : String := "(" ++ qualifiedNameFmt ++ ")?"

def labelValueErrMsg : String :=
  "a valid label must be an empty string or consist of alphanumeric characters, '-', '_' or '.', and must start and end with an alphanumeric character"

def dns1123LabelFmt : String := "[a-z0-9]([-a-z0-9]*[a-z0-9])?"

def dns1123SubdomainFmt : String := dns1123LabelFmt ++ "(\\." ++ dns1123LabelFmt ++ ")*"

def dns1123SubdomainErrorMsg : String :=
  "a lowercase RFC 1123 subdomain must consist of lower case alphanumeric characters, '-' or '.', and must start and end with an alphanumeric character"

/-- The messages of `validation.IsDNS1123Subdomain`. -/
def dns1123SubdomainErrors (s : List Char) : List String :=
  (if 253 < byteLen s then [maxLenError 253] else []) ++
    (if (s.splitOn '.').all matchesDNS1123Label then []
      else [regexError dns1123SubdomainErrorMsg dns1123SubdomainFmt ["example.com"]])

/-- The messages `validation.IsQualifiedName` gives a name part. -/
def namePartErrors (n : List Char) : List String :=
  (if n.isEmpty then ["name part " ++ emptyError]
    else if 63 < byteLen n then ["name part " ++ maxLenError 63] else []) ++
    (if matchesQualifiedName n then []
      else ["name part " ++ regexError qualifiedNameErrMsg qualifiedNameFmt ["MyName", "my.name", "123-abc"]])

/-- The messages `validation.IsQualifiedName` gives a prefix part. -/
def prefixPartErrors (pre : List Char) : List String :=
  if pre.isEmpty then ["prefix part " ++ emptyError]
  else (dns1123SubdomainErrors pre).map ("prefix part " ++ ·)

/-- The messages of `validation.IsQualifiedName`. -/
def qualifiedNameErrors (s : String) : List String :=
  match s.data.splitOn '/' with
  | [n] => namePartErrors n
  | [pre, n] => prefixPartErrors pre ++ namePartErrors n
  | _ =>
    ["a qualified name " ++ regexError qualifiedNameErrMsg qualifiedNameFmt ["MyName", "my.name", "123-abc"] ++
      " with an optional DNS subdomain prefix and '/' (e.g. 'example.com/MyName')"]

/-- The messages of `validation.IsValidLabelValue`. -/
def labelValueErrors (v : String) : List String :=
  (if 63 < byteLen v.data then [maxLenError 63] else []) ++
    (if v.isEmpty || matchesQualifiedName v.data then []
      else [regexError labelValueErrMsg labelValueFmt ["MyValue", "my_value", "12345"]])

/-- The `width` lowest hexadecimal digits of `n`, in lower case, as `strconv` writes escapes. -/
def hexDigits (width n : Nat) : String :=
  String.mk ((List.range width).reverse.map fun i => Nat.digitChar (n / 16 ^ i % 16))

/-- `strconv.IsPrint`, exact on Latin-1; beyond it `isPrint` stands for Go's Unicode tables. -/
def goIsPrint (isPrint : Char → Bool) (r : Char) : Bool :=
  if r.toNat ≤ 0xFF then (0x20 ≤ r.toNat && r.toNat ≤ 0x7E) || (0xA1 ≤ r.toNat && r.toNat ≠ 0xAD)
  else isPrint r

/-- `appendEscapedRune` of `strconv.Quote`. -/
def quoteRune (isPrint : Char → Bool) (r : Char) : String :=
  if r = '"' || r = '\\' then "\\" ++ r.toString
  else if goIsPrint isPrint r then r.toString
  else
    match r with
    | '\x07' => "\\a"
    | '\x08' => "\\b"
    | '\x0c' => "\\f"
    | '\n' => "\\n"
    | '\r' => "\\r"
    | '\t' => "\\t"
    | '\x0b' => "\\v"
    | _ =>
      if r.toNat < 0x20 || r.toNat = 0x7f then "\\x" ++ hexDigits 2 r.toNat
      else if r.toNat < 0x10000 then "\\u" ++ hexDigits 4 r.toNat
      else "\\U" ++ hexDigits 8 r.toNat

/-- `strconv.Quote`, which `%q` prints a string with. -/
def goQuote (isPrint : Char → Bool) (s : String) : String :=
  "\"" ++ String.join (s.data.map (quoteRune isPrint)) ++ "\""

/-- The value a field error reports: a string, or a Go `[]string`. -/
inductive BadValue where
  | str (s : String)
  | strs (vs : List String)
deriving DecidableEq, Repr

/-- `field.Error` of type `ErrorTypeInvalid`, the only type label requirements raise. -/
structure FieldError where
  field : String
  badValue : BadValue
  detail : String
deriving DecidableEq, Repr

/-- The bad value as `ErrorBody` prints it: `%q` for a string, `%#v` for a `[]string`. -/
def BadValue.text (isPrint : Char → Bool) : BadValue → String
  | .str s => goQuote isPrint s
  | .strs vs => "[]string\x7b" ++ ", ".intercalate (vs.map (goQuote isPrint)) ++ "\x7d"

/-- `field.Error.Error()` -/
def FieldError.error (isPrint : Char → Bool) (e : FieldError) : String :=
  e.field ++ ": Invalid value: " ++ e.badValue.text isPrint ++
    (if e.detail = "" then "" else ": " ++ e.detail)

/-- `ErrorList.ToAggregate().Error()`: the distinct messages, in brackets when there are two or
more. -/
def aggregateError (msgs : List String) : String :=
  match msgs.eraseDups with
  | [] => ""
  | [msg] => msg
  | msgs => "[" ++ ", ".intercalate msgs ++ "]"

/-- An error of `labels.Parse`: a text of `fmt.Errorf`, a list of field errors, or a requirement
error under the prefix `parse` gives it. -/
inductive ParseError where
  | text (msg : String)
  | invalid (errs : List FieldError)
  | requirement (err : ParseError)
deriving DecidableEq, Repr

/-- `err.Error()` -/
def ParseError.error (isPrint : Char → Bool) : ParseError → String
  | .text msg => msg
  | .invalid errs => aggregateError (errs.map (·.error isPrint))
  | .requirement err => "unable to parse requirement: " ++ err.error isPrint

/-- `validateLabelKey(k, path)` -/
def validateLabelKey (k path : String) : Option FieldError :=
  match qualifiedNameErrors k with
  | [] => none
  | errs => some ⟨path, .str k, "; ".intercalate errs⟩

/-- `validateLabelValue(k, v, path)`: the error is reported under `path.Key(k)`. -/
def validateLabelValue (k v path : String) : Option FieldError :=
  match labelValueErrors v with
  | [] => none
  | errs => some ⟨path ++ "[" ++ k ++ "]", .str v, "; ".intercalate errs⟩

/-- The tokens of the label-selector lexer of `k8s.io/apimachinery/pkg/labels`. -/
inductive Token where
  | errorToken
  | endOfStringToken
  | closedParToken
  | commaToken
  | doesNotExistToken
  | doubleEqualsToken
  | equalsToken
  | greaterThanToken
  | identifierToken
  | inToken
  | lessThanToken
  | notEqualsToken
  | notInToken
  | openParToken
deriving DecidableEq, Repr

/-- `string2token` -/
def string2token (s : String) : Option Token :=
  if s = ")" then some .closedParToken
  else if s = "," then some .commaToken
  else if s = "!" then some .doesNotExistToken
  else if s = "==" then some .doubleEqualsToken
  else if s = "=" then some .equalsToken
  else if s = ">" then some .greaterThanToken
  else if s = "in" then some .inToken
  else if s = "<" then some .lessThanToken
  else if s = "!=" then some .notEqualsToken
  else if s = "notin" then some .notInToken
  else if s = "(" then some .openParToken
  else none

def isWhitespace (c : Char) : Bool := c = ' ' || c = '\t' || c = '\r' || c = '\n'

def isSpecialSymbol (c : Char) : Bool :=
  c = '=' || c = '!' || c = '(' || c = ')' || c = ',' || c = '>' || c = '<'

/-- A character an identifier runs over; `read` returns the byte 0 at the end of the input,
so a NUL in the input ends an identifier as well. -/
def isIdentifierChar (c : Char) : Bool := !isSpecialSymbol c && !isWhitespace c && c ≠ '\x00'

/-- `Lexer.scanIDOrKeyword` from the first character of the identifier on. A NUL that stops
the run is consumed; a special or blank character is read back. -/
def scanIDOrKeyword (cs : List Char) : (Token × String) × List Char :=
  let (buffer, rest) := cs.span isIdentifierChar
  let s := String.mk buffer
  ((((string2token s).getD .identifierToken), s), if rest.head? = some '\x00' then rest.tail else rest)

/-- The loop of `Lexer.scanSpecialSymbol`: extend the buffer while it still spells a token,
remembering the last token spelled. -/
def scanSpecialSymbolLoop (buffer : String) (last : Option (Token × String)) :
    List Char → Option (Token × String) × List Char
  | [] => (last, [])
  | c :: rest =>
    if c = '\x00' then (last, rest)
    else if isSpecialSymbol c then
      let buffer' := buffer.push c
      match string2token buffer' with
      | some t => scanSpecialSymbolLoop buffer' (some (t, buffer')) rest
      | none =>
        if last.isSome then (last, c :: rest) else scanSpecialSymbolLoop buffer' last rest
    else (last, c :: rest)

/-- `Lexer.scanSpecialSymbol` -/
def scanSpecialSymbol (cs : List Char) : (Token × String) × List Char :=
  match scanSpecialSymbolLoop "" none cs with
  | (some item, rest) => (item, rest)
  | (none, rest) => ((.errorToken, "error expected: keyword found '" ++ String.mk cs ++ "'"), rest)

theorem scanIDOrKeyword_length_lt {c : Char} {cs : List Char} (hc : isIdentifierChar c = true) :
    (scanIDOrKeyword (c :: cs)).2.length < (c :: cs).length := by
  have hspan := List.span_eq_take_drop (p := isIdentifierChar) (c :: cs)
  have hd : ((c :: cs).dropWhile isIdentifierChar).length ≤ cs.length := by
    simp only [List.dropWhile_cons, hc, if_true]
    exact List.IsSuffix.length_le (List.dropWhile_suffix _)
  simp only [scanIDOrKeyword, hspan]
  split <;> simp only [List.length_tail, List.length_cons] <;> omega

theorem scanSpecialSymbolLoop_length_le (buffer : String) (last : Option (Token × String))
    (cs : List Char) : (scanSpecialSymbolLoop buffer last cs).2.length ≤ cs.length := by
  induction cs generalizing buffer last with
  | nil => simp [scanSpecialSymbolLoop]
  | cons c cs ih =>
    simp only [scanSpecialSymbolLoop]
    split
    · simp
    · split
      · split
        · exact Nat.le_succ_of_le (ih _ _)
        · split
          · simp
          · exact Nat.le_succ_of_le (ih _ _)
      · simp

theorem scanSpecialSymbol_length_lt {c : Char} {cs : List Char} (hc : isSpecialSymbol c = true)
    (h0 : c ≠ '\x00') : (scanSpecialSymbol (c :: cs)).2.length < (c :: cs).length := by
  have hstep : (scanSpecialSymbolLoop "" none (c :: cs)).2.length ≤ cs.length := by
    simp only [scanSpecialSymbolLoop, h0, hc, if_false, if_true]
    split
    · exact scanSpecialSymbolLoop_length_le _ _ _
    · exact scanSpecialSymbolLoop_length_le _ _ _
  simp only [scanSpecialSymbol]
  split <;> simp_all <;> omega

/-- `Parser.scan` over `Lexer.Lex`: the tokens of the input up to the end-of-string token,
blanks skipped; a NUL where a token would start ends the input. -/
def lex (cs : List Char) : List (Token × String) :=
  match _h : cs.dropWhile isWhitespace with
  | [] => [(.endOfStringToken, "")]
  | c :: rest =>
    if _h0 : c = '\x00' then [(.endOfStringToken, "")]
    else if _hs : isSpecialSymbol c then
      (scanSpecialSymbol (c :: rest)).1 :: lex (scanSpecialSymbol (c :: rest)).2
    else
      (scanIDOrKeyword (c :: rest)).1 :: lex (scanIDOrKeyword (c :: rest)).2
termination_by cs.length
decreasing_by
  all_goals
    have hle : (c :: rest).length ≤ cs.length := _h ▸ (List.dropWhile_suffix _).length_le
  · exact Nat.lt_of_lt_of_le (scanSpecialSymbol_length_lt _hs _h0) hle
  · refine Nat.lt_of_lt_of_le (scanIDOrKeyword_length_lt ?_) hle
    have hw := List.head_dropWhile_not isWhitespace cs (by simp [_h])
    simp only [_h, List.head_cons] at hw
    simp_all [isIdentifierChar]

/-- `selection.Operator` -/
inductive Operator where
  | opDoesNotExist
  | opEquals
  | opDoubleEquals
  | opIn
  | opNotEquals
  | opNotIn
  | opExists
  | opGreaterThan
  | opLessThan
deriving DecidableEq, Repr

/-- `labels.Requirement` -/
structure Requirement where
  key : String
  operator : Operator
  strValues : List String
deriving DecidableEq, Repr

/-- The field errors `labels.NewRequirement` collects: the key, the values' number for the
operator (and, for `gt` and `lt`, that each is an integer), then each value as a label value. -/
def requirementErrors (key : String) (op : Operator) (vals : List String) : List FieldError :=
  let valuesInvalid (detail : String) : FieldError := ⟨"values", .strs vals, detail⟩
  let indexPath (i : Nat) : String := "values[" ++ toString i ++ "]"
  (validateLabelKey key "key").toList ++
    (match op with
      | .opIn | .opNotIn =>
        if vals.isEmpty then [valuesInvalid "for 'in', 'notin' operators, values set can't be empty"]
        else []
      | .opEquals | .opDoubleEquals | .opNotEquals =>
        if vals.length ≠ 1 then [valuesInvalid "exact-match compatibility requires one single value"]
        else []
      | .opExists | .opDoesNotExist =>
        if vals.isEmpty then []
        else [valuesInvalid "values set must be empty for exists and does not exist"]
      | .opGreaterThan | .opLessThan =>
        (if vals.length ≠ 1 then
          [valuesInvalid "for 'Gt', 'Lt' operators, exactly one value is required"] else []) ++
          vals.enum.filterMap fun (i, v) =>
            if (parseInt v).isSome then none
            else some ⟨indexPath i, .str v, "for 'Gt', 'Lt' operators, the value must be an integer"⟩) ++
    vals.enum.filterMap fun (i, v) => validateLabelValue key v (indexPath i)

/-- `labels.NewRequirement`: the requirement, or the aggregate of its field errors. -/
def newRequirement (key : String) (op : Operator) (vals : List String) :
    Except ParseError Requirement :=
  match requirementErrors key op vals with
  | [] => .ok ⟨key, op, vals⟩
  | errs => .error (.invalid errs)

inductive ParserContext where
  | keyAndOperator
  | values
deriving DecidableEq, Repr

/-- In the values context the keywords `in` and `notin` read as identifiers. -/
def ParserContext.adjust : ParserContext → Token → Token
  | .values, .inToken => .identifierToken
  | .values, .notInToken => .identifierToken
  | _, t => t

/-- `Parser.lookahead`; the scanned items always end with the end-of-string token. -/
def lookahead (ctx : ParserContext) : List (Token × String) → Token × String
  | [] => (.endOfStringToken, "")
  | (t, lit) :: _ => (ctx.adjust t, lit)

/-- `Parser.consume` -/
def consume (ctx : ParserContext) : List (Token × String) → (Token × String) × List (Token × String)
  | [] => ((.endOfStringToken, ""), [])
  | (t, lit) :: items => ((ctx.adjust t, lit), items)

/-- `Parser.parseKeyAndInferOperator`: an optional `!`, the key, and `exists` when the key
stands alone. -/
def parseKeyAndInferOperator (items : List (Token × String)) :
    Except ParseError ((String × Option Operator) × List (Token × String)) :=
  let ((tok, literal), items) := consume .values items
  let (operator, (tok, literal), items) :=
    if tok = .doesNotExistToken then (some Operator.opDoesNotExist, consume .values items)
    else (none, (tok, literal), items)
  if tok ≠ .identifierToken then .error (.text ("found '" ++ literal ++ "', expected: identifier"))
  else
    match validateLabelKey literal "<nil>" with
    | some err => .error (.invalid [err])
    | none =>
      let t := (lookahead .values items).1
      let operator :=
        if t = .endOfStringToken ∨ t = .commaToken then
          if operator ≠ some .opDoesNotExist then some .opExists else operator
        else operator
      .ok ((literal, operator), items)

/-- `Parser.parseOperator` -/
def parseOperator (items : List (Token × String)) :
    Except ParseError (Operator × List (Token × String)) :=
  let ((tok, lit), items) := consume .keyAndOperator items
  match tok with
  | .inToken => .ok (.opIn, items)
  | .equalsToken => .ok (.opEquals, items)
  | .doubleEqualsToken => .ok (.opDoubleEquals, items)
  | .greaterThanToken => .ok (.opGreaterThan, items)
  | .lessThanToken => .ok (.opLessThan, items)
  | .notInToken => .ok (.opNotIn, items)
  | .notEqualsToken => .ok (.opNotEquals, items)
  | _ => .error (.text ("found '" ++ lit ++ "', expected: in, notin, =, ==, !=, gt, lt"))

/-- `Parser.parseExactValue`: one identifier, or the empty value before `,` or the end. -/
def parseExactValue (items : List (Token × String)) :
    Except ParseError (List String × List (Token × String)) :=
  let tok := (lookahead .values items).1
  if tok = .endOfStringToken ∨ tok = .commaToken then .ok ([""], items)
  else
    let ((tok, lit), items) := consume .values items
    if tok = .identifierToken then .ok ([lit], items)
    else .error (.text ("found '" ++ lit ++ "', expected: identifier"))

/-- `Parser.parseIdentifiersList`, the values between the parentheses of `in (..)`. -/
def parseIdentifiersList : Nat → List String → List (Token × String) →
    Except ParseError (List String × List (Token × String))
  | 0, _, _ => .error (.text "unexpected end of values")
  | fuel + 1, s, items =>
    let ((tok, lit), items) := consume .values items
    match tok with
    | .identifierToken =>
      let s := s.insert lit
      let (tok2, lit2) := lookahead .values items
      match tok2 with
      | .commaToken => parseIdentifiersList fuel s items
      | .closedParToken => .ok (s, items)
      | _ => .error (.text ("found '" ++ lit2 ++ "', expected: ',' or ')'"))
    | .commaToken =>
      let s := if s.isEmpty then s.insert "" else s
      let tok2 := (lookahead .values items).1
      if tok2 = .closedParToken then .ok (s.insert "", items)
      else if tok2 = .commaToken then parseIdentifiersList fuel (s.insert "") (consume .values items).2
      else parseIdentifiersList fuel s items
    | _ => .error (.text ("found '" ++ lit ++ "', expected: ',', or identifier"))

/-- `Parser.parseValues`: a parenthesised list of values. -/
def parseValues (items : List (Token × String)) :
    Except ParseError (List String × List (Token × String)) :=
  let ((tok, lit), items) := consume .values items
  if tok ≠ .openParToken then .error (.text ("found '" ++ lit ++ "' expected: '('"))
  else
    let (tok, lit) := lookahead .values items
    match tok with
    | .identifierToken | .commaToken =>
      match parseIdentifiersList items.length [] items with
      | .error e => .error e
      | .ok (s, items) =>
        if (consume .values items).1.1 ≠ .closedParToken then
          .error (.text ("found '" ++ lit ++ "', expected: ')'"))
        else .ok (s, (consume .values items).2)
    | .closedParToken => .ok ([""], (consume .values items).2)
    | _ => .error (.text ("found '" ++ lit ++ "', expected: ',', ')' or identifier"))

/-- `Parser.parseRequirement` -/
def parseRequirement (items : List (Token × String)) :
    Except ParseError (Requirement × List (Token × String)) := do
  let ((key, operator), items) ← parseKeyAndInferOperator items
  match operator with
  | some .opExists => return (← newRequirement key .opExists [], items)
  | some .opDoesNotExist => return (← newRequirement key .opDoesNotExist [], items)
  | _ =>
    let (operator, items) ← parseOperator items
    let (values, items) ← match operator with
      | .opIn | .opNotIn => parseValues items
      | .opEquals | .opDoubleEquals | .opNotEquals | .opGreaterThan | .opLessThan =>
        parseExactValue items
      | _ => pure ([], items)
    return (← newRequirement key operator values, items)

/-- The loop of `Parser.parse`: requirements separated by commas up to the end of the input.
A round consumes at least two items, so the number of items bounds the rounds. -/
def parseLoop : Nat → List (Token × String) → List Requirement →
    Except ParseError (List Requirement)
  | 0, _, _ => .error (.text "unexpected end of selector")
  | fuel + 1, items, requirements =>
    let (tok, lit) := lookahead .values items
    match tok with
    | .identifierToken | .doesNotExistToken =>
      match parseRequirement items with
      | .error e => .error (.requirement e)
      | .ok (r, items) =>
        let requirements := requirements ++ [r]
        let ((t, l), items) := consume .values items
        match t with
        | .endOfStringToken => .ok requirements
        | .commaToken =>
          let (t2, l2) := lookahead .values items
          if t2 ≠ .identifierToken ∧ t2 ≠ .doesNotExistToken then
            .error (.text ("found '" ++ l2 ++ "', expected: identifier after ','"))
          else parseLoop fuel items requirements
        | _ => .error (.text ("found '" ++ l ++ "', expected: ',' or 'end of string'"))
    | .endOfStringToken => .ok requirements
    | _ => .error (.text ("found '" ++ lit ++ "', expected: !, identifier, or 'end of string'"))

/-- `labels.Parse`: the requirements of a label selector, all of which an object must meet.
(`Parse` also sorts them by key, which does not change what they select.) -/
def labelsParse (selector : String) : Except ParseError (List Requirement) :=
  let items := lex selector.data
  parseLoop items.length items []

/-- `Requirement.Matches` -/
def Requirement.matches (r : Requirement) (ls : List (String × String)) : Bool :=
  match r.operator, mapGet ls r.key with
  | .opIn, some v | .opEquals, some v | .opDoubleEquals, some v => r.strValues.contains v
  | .opIn, none | .opEquals, none | .opDoubleEquals, none => false
  | .opNotIn, some v | .opNotEquals, some v => !r.strValues.contains v
  | .opNotIn, none | .opNotEquals, none => true
  | .opExists, v => v.isSome
  | .opDoesNotExist, v => v.isNone
  | .opGreaterThan, some v | .opLessThan, some v =>
    match parseInt v, r.strValues with
    | some lsValue, [rv] =>
      match parseInt rv with
      | some rValue =>
        (r.operator = .opGreaterThan && rValue < lsValue) ||
          (r.operator = .opLessThan && lsValue < rValue)
      | none => false
    | _, _ => false
  | .opGreaterThan, none | .opLessThan, none => false

/-- `internalSelector.Matches`: every requirement holds. -/
def selectorMatches (requirements : List Requirement) (ls : List (String × String)) : Bool :=
  requirements.all (·.matches ls)

end KusciaGrant
