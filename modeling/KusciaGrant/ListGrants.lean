import KusciaGrant.Invariant
import Mathlib.Data.List.Basic
import Mathlib.Data.String.Basic

namespace KusciaGrant

open Kusciaapi

section Characters

theorem isIdentifierChar_eq_false {c : Char} (h : isIdentifierChar c = false) :
    c = '=' ∨ c = '!' ∨ c = '(' ∨ c = ')' ∨ c = ',' ∨ c = '>' ∨ c = '<' ∨ c = ' ' ∨ c = '\t' ∨
      c = '\r' ∨ c = '\n' ∨ c = '\x00' := by
  simp only [isIdentifierChar, isSpecialSymbol, isWhitespace, Bool.and_eq_false_iff,
    Bool.not_eq_false', Bool.or_eq_true, decide_eq_true_eq, decide_eq_false_iff_not, not_not,
    or_assoc] at h
  exact h

/-- A character of a label name or value runs on in an identifier of the selector lexer. -/
theorem isIdentifierChar_of_isQnameExtChar {c : Char} (h : isQnameExtChar c = true) :
    isIdentifierChar c = true := by
  cases hc : isIdentifierChar c
  · rcases isIdentifierChar_eq_false hc with
      rfl | rfl | rfl | rfl | rfl | rfl | rfl | rfl | rfl | rfl | rfl | rfl <;> revert h <;> decide
  · rfl

theorem mem_of_mem_intersperse {α : Type} {sep l : α} :
    ∀ {parts : List α}, l ∈ parts.intersperse sep → l = sep ∨ l ∈ parts
  | [], h => by simp at h
  | [_], h => .inr (by simpa using h)
  | p :: q :: qs, h => by
    rw [List.intersperse_cons_cons] at h
    rcases List.mem_cons.mp h with rfl | h
    · exact .inr (List.mem_cons_self _ _)
    rcases List.mem_cons.mp h with rfl | h
    · exact .inl rfl
    exact (mem_of_mem_intersperse h).imp_right (List.mem_cons_of_mem _)

theorem forall_mem_intercalate {α : Type} {P : α → Prop} {sep : List α} {parts : List (List α)}
    (hsep : ∀ c ∈ sep, P c) (hparts : ∀ p ∈ parts, ∀ c ∈ p, P c) :
    ∀ c ∈ sep.intercalate parts, P c := by
  intro c hc
  obtain ⟨l, hl, hcl⟩ := List.mem_flatten.mp hc
  rcases mem_of_mem_intersperse hl with rfl | hl
  · exact hsep c hcl
  · exact hparts l hl c hcl

theorem matchesQualifiedName_chars {n : List Char} (h : matchesQualifiedName n = true) :
    n ≠ [] ∧ ∀ c ∈ n, isQnameExtChar c = true := by
  unfold matchesQualifiedName at h
  split at h
  · rename_i a b ha _
    simp only [Bool.and_eq_true, List.all_eq_true] at h
    exact ⟨fun hn => by simp [hn] at ha, h.2⟩
  · cases h

theorem isDNS1123Subdomain_qname {s : List Char} (h : isDNS1123Subdomain s = true) :
    ∀ c ∈ s, isQnameExtChar c = true := by
  simp only [isDNS1123Subdomain, Bool.and_eq_true, List.all_eq_true] at h
  have hs : ['.'].intercalate (s.splitOn '.') = s := List.intercalate_splitOn s '.'
  rw [← hs]
  refine forall_mem_intercalate (by decide) fun p hp c hc => ?_
  have hlabel := h.2 p hp
  unfold matchesDNS1123Label at hlabel
  split at hlabel
  · simp only [Bool.and_eq_true, List.all_eq_true, Bool.or_eq_true, decide_eq_true_eq] at hlabel
    rcases hlabel.2 c hc with (hl | hd) | rfl
    · simp [isQnameExtChar, Char.isAlphanum, Char.isAlpha, hl]
    · simp [isQnameExtChar, Char.isAlphanum, hd]
    · rfl
  · cases hlabel

theorem isDNS1123Subdomain_chars {s : List Char} (h : isDNS1123Subdomain s = true) :
    ∀ c ∈ s, isIdentifierChar c = true :=
  fun c hc => isIdentifierChar_of_isQnameExtChar (isDNS1123Subdomain_qname h c hc)

/-- A name or label character is one byte of UTF-8. -/
theorem utf8Size_of_isQnameExtChar {c : Char} (h : isQnameExtChar c = true) : c.utf8Size = 1 := by
  have hle : c.val.toNat ≤ 122 := by
    simp only [isQnameExtChar, Char.isAlphanum, Char.isAlpha, Char.isUpper, Char.isLower,
      Char.isDigit, Bool.or_eq_true, Bool.and_eq_true, decide_eq_true_eq] at h
    rcases h with ((((h | h) | h) | h) | h) | h
    all_goals first
      | (subst h; decide)
      | exact Nat.le_trans (UInt32.toNat_le_of_le (by decide) h.2) (by decide)
  have h127 : c.val ≤ UInt32.ofNatCore 127 (by decide) := by
    simp only [UInt32.le_def, BitVec.le_def]
    exact Nat.le_trans hle (by decide)
  rw [Char.utf8Size, if_pos h127]

theorem byteLen_of_isQnameExtChar {s : List Char} (h : ∀ c ∈ s, isQnameExtChar c = true) :
    byteLen s = s.length := by
  induction s with
  | nil => rfl
  | cons c s ih =>
    have hc := utf8Size_of_isQnameExtChar (h c (List.mem_cons_self _ _))
    have hs := ih fun c hc => h c (List.mem_cons_of_mem _ hc)
    simp only [byteLen, List.map_cons, List.sum_cons, List.length_cons] at hs ⊢
    omega

theorem namePartErrors_eq_nil {n : List Char} (hlen : n.length ≤ 63)
    (h : matchesQualifiedName n = true) : namePartErrors n = [] := by
  obtain ⟨hne, hchars⟩ := matchesQualifiedName_chars h
  simp [namePartErrors, h, List.isEmpty_iff, hne, byteLen_of_isQnameExtChar hchars, hlen]

theorem prefixPartErrors_eq_nil {pre : List Char} (hne : pre.isEmpty = false)
    (h : isDNS1123Subdomain pre = true) : prefixPartErrors pre = [] := by
  have hbytes := byteLen_of_isQnameExtChar (isDNS1123Subdomain_qname h)
  simp only [isDNS1123Subdomain, Bool.and_eq_true, decide_eq_true_eq] at h
  simp [prefixPartErrors, dns1123SubdomainErrors, hne, hbytes, h.1, h.2]

/-- A key `IsQualifiedName` accepts draws no message from it. -/
theorem qualifiedNameErrors_eq_nil {k : String} (h : isQualifiedName k = true) :
    qualifiedNameErrors k = [] := by
  unfold isQualifiedName at h
  unfold qualifiedNameErrors
  split at h
  · rename_i n hn
    simp only [Bool.and_eq_true, decide_eq_true_eq] at h
    simp only [hn, namePartErrors_eq_nil h.1 h.2]
  · rename_i pre n hn
    simp only [Bool.and_eq_true, decide_eq_true_eq, Bool.not_eq_true'] at h
    simp only [hn, prefixPartErrors_eq_nil h.1.1 h.1.2, namePartErrors_eq_nil h.2.1 h.2.2,
      List.append_nil]
  · cases h

/-- A label key is a non-empty run of identifier characters. -/
theorem isQualifiedName_chars {k : String} (h : isQualifiedName k = true) :
    k.data ≠ [] ∧ ∀ c ∈ k.data, isIdentifierChar c = true := by
  have hname : ∀ n : List Char, matchesQualifiedName n = true →
      n ≠ [] ∧ ∀ c ∈ n, isIdentifierChar c = true := fun n hn => by
    obtain ⟨hne, hchars⟩ := matchesQualifiedName_chars hn
    exact ⟨hne, fun c hc => isIdentifierChar_of_isQnameExtChar (hchars c hc)⟩
  have hk : ['/'].intercalate (k.data.splitOn '/') = k.data := List.intercalate_splitOn k.data '/'
  unfold isQualifiedName at h
  split at h
  · rename_i n hn
    rw [hn] at hk
    simp only [Bool.and_eq_true] at h
    obtain ⟨hne, hchars⟩ := hname n h.2
    rw [← hk]
    exact ⟨by simpa [List.intercalate] using hne, forall_mem_intercalate (by decide) (by simpa using hchars)⟩
  · rename_i pre n hn
    rw [hn] at hk
    simp only [Bool.and_eq_true, Bool.not_eq_true'] at h
    obtain ⟨hne, hchars⟩ := hname n h.2.2
    rw [← hk]
    refine ⟨by simp [List.intercalate, List.intersperse_cons_cons], forall_mem_intercalate (by decide) ?_⟩
    simp only [List.mem_cons, List.mem_singleton, List.not_mem_nil, or_false, forall_eq_or_imp,
      forall_eq]
    exact ⟨isDNS1123Subdomain_chars h.1.2, hchars⟩
  · cases h

/-- A label value is made of name characters. -/
theorem isValidLabelValue_chars {v : String} (h : isValidLabelValue v = true) :
    ∀ c ∈ v.data, isQnameExtChar c = true := by
  simp only [isValidLabelValue, Bool.and_eq_true, Bool.or_eq_true] at h
  rcases h.2 with hempty | hname
  · simp [(String.isEmpty_iff v).mp hempty]
  · exact (matchesQualifiedName_chars hname).2

theorem isValidLabelValue_ne {v : String} (h : isValidLabelValue v = true) (hne : v ≠ "") :
    v.data ≠ [] ∧ ∀ c ∈ v.data, isIdentifierChar c = true :=
  ⟨fun hnil => hne (String.ext hnil), fun c hc => isIdentifierChar_of_isQnameExtChar
    (isValidLabelValue_chars h c hc)⟩

/-- A value `IsValidLabelValue` accepts draws no message from it. -/
theorem labelValueErrors_eq_nil {v : String} (h : isValidLabelValue v = true) :
    labelValueErrors v = [] := by
  have hbytes := byteLen_of_isQnameExtChar (isValidLabelValue_chars h)
  obtain ⟨l⟩ := v
  simp only [isValidLabelValue, Bool.and_eq_true, decide_eq_true_eq] at h
  simp only [labelValueErrors, hbytes, h.2, if_true, List.append_nil]
  exact if_neg (Nat.not_lt.mpr h.1)

theorem newRequirement_opEquals {k v : String} (hk : isQualifiedName k = true)
    (hv : isValidLabelValue v = true) : newRequirement k .opEquals [v] = .ok ⟨k, .opEquals, [v]⟩ := by
  simp [newRequirement, requirementErrors, validateLabelKey, validateLabelValue,
    qualifiedNameErrors_eq_nil hk, labelValueErrors_eq_nil hv]

/-- `fields.EscapeValue` leaves a value without a backslash, a comma or an equals sign as it is. -/
theorem escapeValue_of_plain {s : String} (h : ∀ c ∈ s.data, ¬(c = '\\' ∨ c = ',' ∨ c = '=')) :
    escapeValue s = s := by
  obtain ⟨l⟩ := s
  simp only [escapeValue]
  congr 1
  induction l with
  | nil => rfl
  | cons c l ih =>
    simp only [List.flatMap_cons, if_neg (h c (List.mem_cons_self _ _)), List.singleton_append,
      ih fun c' hc' => h c' (List.mem_cons_of_mem _ hc')]

/-- A blank ends an identifier and a symbol, and is not the end of the input. -/
theorem blank_stops {c : Char} (h : isWhitespace c = true) :
    (isIdentifierChar c = false ∧ c ≠ '\x00') ∧ (isSpecialSymbol c = false ∧ c ≠ '\x00') := by
  simp only [isWhitespace, Bool.or_eq_true, decide_eq_true_eq] at h
  rcases h with ((rfl | rfl) | rfl) | rfl <;> decide

theorem identifier_stop_of_special {rest : List Char}
    (h : ∀ c ∈ rest.head?, isSpecialSymbol c = true) :
    ∀ c ∈ rest.head?, isIdentifierChar c = false ∧ c ≠ '\x00' := fun c hc => by
  have hs := h c hc
  refine ⟨by simp [isIdentifierChar, hs], ?_⟩
  rintro rfl
  exact absurd hs (by decide)

theorem symbol_stop_of_identifier {rest : List Char}
    (h : ∀ c ∈ rest.head?, isIdentifierChar c = true) :
    ∀ c ∈ rest.head?, isSpecialSymbol c = false ∧ c ≠ '\x00' := fun c hc => by
  have hc := h c hc
  simp only [isIdentifierChar, Bool.and_eq_true, Bool.not_eq_true', decide_eq_true_eq] at hc
  exact ⟨hc.1.1, hc.2⟩

theorem plain_of_blank {c : Char} (h : isWhitespace c = true) : ¬(c = '\\' ∨ c = ',' ∨ c = '=') := by
  simp only [isWhitespace, Bool.or_eq_true, decide_eq_true_eq] at h
  rcases h with ((rfl | rfl) | rfl) | rfl <;> decide

/-- `fields.EscapeValue` leaves a label value with blanks around it as it is. -/
theorem escapeValue_padded {v : String} {p q : List Char} (hv : isValidLabelValue v = true)
    (hp : ∀ c ∈ p, isWhitespace c = true) (hq : ∀ c ∈ q, isWhitespace c = true) :
    escapeValue (String.mk (p ++ (v.data ++ q))) = String.mk (p ++ (v.data ++ q)) :=
  escapeValue_of_plain fun c hc => by
    rcases List.mem_append.mp hc with hc | hc
    · exact plain_of_blank (hp c hc)
    rcases List.mem_append.mp hc with hc | hc
    · have hc := isValidLabelValue_chars hv c hc
      rintro (rfl | rfl | rfl) <;> revert hc <;> decide
    · exact plain_of_blank (hq c hc)

theorem identifier_head {w rest : List Char} (hw : w ≠ [] ∧ ∀ c ∈ w, isIdentifierChar c = true) :
    ∀ c ∈ (w ++ rest).head?, isIdentifierChar c = true := by
  obtain ⟨c, cs, rfl⟩ := List.exists_cons_of_ne_nil hw.1
  rintro _ ⟨⟩
  exact hw.2 c (List.mem_cons_self _ _)

end Characters

section Lexer

theorem scanIDOrKeyword_append {w rest : List Char} (hid : ∀ c ∈ w, isIdentifierChar c = true)
    (hrest : ∀ c ∈ rest.head?, isIdentifierChar c = false ∧ c ≠ '\x00') :
    scanIDOrKeyword (w ++ rest) =
      (((string2token (String.mk w)).getD .identifierToken, String.mk w), rest) := by
  have hstop : rest.takeWhile isIdentifierChar = [] ∧ rest.dropWhile isIdentifierChar = rest := by
    cases rest with
    | nil => simp
    | cons d ds => simp [(hrest d rfl).1]
  have hnul : rest.head? ≠ some '\x00' := fun h => (hrest _ h).2 rfl
  simp only [scanIDOrKeyword, List.span_eq_take_drop, List.takeWhile_append_of_pos hid,
    List.dropWhile_append_of_pos hid, hstop, List.append_nil, hnul, if_false]

/-- An identifier followed by what ends it, other than a NUL, is read as one token. -/
theorem lex_identifier {w rest : List Char} (hw : w ≠ []) (hid : ∀ c ∈ w, isIdentifierChar c = true)
    (hrest : ∀ c ∈ rest.head?, isIdentifierChar c = false ∧ c ≠ '\x00') :
    lex (w ++ rest) =
      ((string2token (String.mk w)).getD .identifierToken, String.mk w) :: lex rest := by
  obtain ⟨c, w', rfl⟩ := List.exists_cons_of_ne_nil hw
  have hc := hid c (List.mem_cons_self _ _)
  simp only [isIdentifierChar, Bool.and_eq_true, Bool.not_eq_true', decide_eq_true_eq] at hc
  obtain ⟨⟨hs, hws⟩, h0⟩ := hc
  rw [lex]
  split
  · rename_i heq
    simp [List.dropWhile_cons, hws] at heq
  · rename_i c' rest' heq
    simp only [List.cons_append, List.dropWhile_cons, hws, Bool.false_eq_true, if_false,
      List.cons.injEq] at heq
    obtain ⟨rfl, rfl⟩ := heq
    rw [dif_neg h0, dif_neg (by simp [hs]), ← List.cons_append, scanIDOrKeyword_append hid hrest]

theorem scanSpecialSymbolLoop_stop (buffer : String) (last : Option (Token × String))
    {rest : List Char} (hrest : ∀ d ∈ rest.head?, isSpecialSymbol d = false ∧ d ≠ '\x00') :
    scanSpecialSymbolLoop buffer last rest = (last, rest) := by
  cases rest with
  | nil => rfl
  | cons d ds => simp [scanSpecialSymbolLoop, hrest d rfl]

/-- A one-character symbol followed by what ends it, other than a NUL, is read as one token. -/
theorem lex_symbol (c : Char) (tok : Token) (hc : c ≠ '\x00') (hs : isSpecialSymbol c = true)
    (hw : isWhitespace c = false) (ht : string2token ("".push c) = some tok) {rest : List Char}
    (hrest : ∀ d ∈ rest.head?, isSpecialSymbol d = false ∧ d ≠ '\x00') :
    lex (c :: rest) = (tok, "".push c) :: lex rest := by
  rw [lex]
  split
  · rename_i heq
    simp [List.dropWhile_cons, hw] at heq
  · rename_i c' rest' heq
    simp only [List.dropWhile_cons, hw, Bool.false_eq_true, if_false, List.cons.injEq] at heq
    obtain ⟨rfl, rfl⟩ := heq
    rw [dif_neg hc, dif_pos hs]
    simp only [scanSpecialSymbol, scanSpecialSymbolLoop, hc, hs, ht, if_false, if_true]
    rw [scanSpecialSymbolLoop_stop _ _ hrest]

/-- Blanks before a token are skipped. -/
theorem lex_blanks {w : List Char} (hw : ∀ c ∈ w, isWhitespace c = true) (cs : List Char) :
    lex (w ++ cs) = lex cs := by
  conv_lhs => rw [lex]
  conv_rhs => rw [lex]
  rw [List.dropWhile_append_of_pos hw]

/-- The tokens of a selector term `key=value` whose key and value are identifiers, with blanks
around the value: the blanks leave no token. -/
theorem lex_term_padded {k v : String} {p q rest : List Char}
    (hk : k.data ≠ [] ∧ ∀ c ∈ k.data, isIdentifierChar c = true)
    (hv : v.data ≠ [] ∧ ∀ c ∈ v.data, isIdentifierChar c = true)
    (hp : ∀ c ∈ p, isWhitespace c = true) (hq : ∀ c ∈ q, isWhitespace c = true)
    (hrest : ∀ c ∈ rest.head?, isSpecialSymbol c = true) :
    lex (k.data ++ '=' :: (p ++ (v.data ++ (q ++ rest)))) =
      ((string2token k).getD .identifierToken, k) :: (.equalsToken, "=") ::
        ((string2token v).getD .identifierToken, v) :: lex rest := by
  have hend : ∀ d ∈ (p ++ (v.data ++ (q ++ rest))).head?,
      isSpecialSymbol d = false ∧ d ≠ '\x00' := by
    cases p with
    | nil => exact symbol_stop_of_identifier (@identifier_head v.data (q ++ rest) hv)
    | cons b p =>
      rintro _ ⟨⟩
      exact (blank_stops (hp _ (List.mem_cons_self _ _))).2
  have hvend : ∀ d ∈ (q ++ rest).head?, isIdentifierChar d = false ∧ d ≠ '\x00' := by
    cases q with
    | nil => exact identifier_stop_of_special hrest
    | cons b q =>
      rintro _ ⟨⟩
      exact (blank_stops (hq _ (List.mem_cons_self _ _))).1
  rw [lex_identifier hk.1 hk.2 (by simp; decide),
    lex_symbol '=' .equalsToken (by decide) (by decide) (by decide) rfl hend, lex_blanks hp,
    lex_identifier hv.1 hv.2 hvend, lex_blanks hq]
  rfl

end Lexer

section Parser

/-- In the values context an identifier run is an identifier, a keyword included: no symbol
token is spelled by identifier characters. -/
theorem values_adjust_token {s : String} (hs : ∀ c ∈ s.data, isIdentifierChar c = true) :
    ParserContext.values.adjust ((string2token s).getD .identifierToken) = .identifierToken := by
  have hlit : ∀ lit : String, (∃ c ∈ lit.data, isIdentifierChar c = false) → s ≠ lit := by
    rintro lit ⟨c, hc, hid⟩ rfl
    rw [hs c hc] at hid
    cases hid
  simp only [string2token, hlit ")" ⟨')', by decide, by decide⟩, hlit "," ⟨',', by decide, by decide⟩,
    hlit "!" ⟨'!', by decide, by decide⟩, hlit "==" ⟨'=', by decide, by decide⟩,
    hlit "=" ⟨'=', by decide, by decide⟩, hlit ">" ⟨'>', by decide, by decide⟩,
    hlit "<" ⟨'<', by decide, by decide⟩, hlit "!=" ⟨'!', by decide, by decide⟩,
    hlit "(" ⟨'(', by decide, by decide⟩, if_false]
  by_cases hin : s = "in"
  · rw [if_pos hin]
    rfl
  · rw [if_neg hin]
    by_cases hnotin : s = "notin"
    · rw [if_pos hnotin]
      rfl
    · rw [if_neg hnotin]
      rfl

theorem parseKeyAndInferOperator_key (k : String) (tk t : Token) (lit : String)
    (rest : List (Token × String)) (htk : ParserContext.values.adjust tk = .identifierToken)
    (ht : ParserContext.values.adjust t = .equalsToken) (hk : isQualifiedName k = true) :
    parseKeyAndInferOperator ((tk, k) :: (t, lit) :: rest) = .ok ((k, none), (t, lit) :: rest) := by
  simp [parseKeyAndInferOperator, consume, lookahead, htk, ht, validateLabelKey,
    qualifiedNameErrors_eq_nil hk]

theorem parseExactValue_identifier (v : String) (tv : Token) (rest : List (Token × String))
    (htv : ParserContext.values.adjust tv = .identifierToken) :
    parseExactValue ((tv, v) :: rest) = .ok ([v], rest) := by
  simp [parseExactValue, consume, lookahead, htv]

/-- `key=value` parses to the equality requirement, whatever follows it. -/
theorem parseRequirement_term (k v : String) (tk tv : Token) (rest : List (Token × String))
    (htk : ParserContext.values.adjust tk = .identifierToken)
    (htv : ParserContext.values.adjust tv = .identifierToken)
    (hk : isQualifiedName k = true) (hv : isValidLabelValue v = true) :
    parseRequirement ((tk, k) :: (.equalsToken, "=") :: (tv, v) :: rest) =
      .ok (⟨k, .opEquals, [v]⟩, rest) := by
  simp [parseRequirement, parseKeyAndInferOperator_key k tk .equalsToken "=" _ htk rfl hk, bind,
    Except.bind, Functor.map, Except.map, pure, Except.pure, parseOperator, consume,
    ParserContext.adjust, parseExactValue_identifier v tv rest htv, newRequirement_opEquals hk hv]

section Terms

variable (k v : String) (tk tv : Token) (htk : ParserContext.values.adjust tk = .identifierToken)
  (htv : ParserContext.values.adjust tv = .identifierToken) (hk : isQualifiedName k = true)
  (hv : isValidLabelValue v = true)

include htk htv hk hv

theorem parseLoop_last (fuel : Nat) (requirements : List Requirement) :
    parseLoop (fuel + 1) [(tk, k), (.equalsToken, "="), (tv, v), (.endOfStringToken, "")]
      requirements = .ok (requirements ++ [⟨k, .opEquals, [v]⟩]) := by
  have hend : ParserContext.values.adjust .endOfStringToken = .endOfStringToken := rfl
  simp only [parseLoop, lookahead, htk, parseRequirement_term k v tk tv _ htk htv hk hv, consume,
    hend]

theorem parseLoop_comma (fuel : Nat) (requirements : List Requirement) (comma : String) (tk' : Token)
    (k' : String) (rest : List (Token × String))
    (htk' : ParserContext.values.adjust tk' = .identifierToken) :
    parseLoop (fuel + 1) ((tk, k) :: (.equalsToken, "=") :: (tv, v) :: (.commaToken, comma) ::
      (tk', k') :: rest) requirements =
      parseLoop fuel ((tk', k') :: rest) (requirements ++ [⟨k, .opEquals, [v]⟩]) := by
  have hcomma : ParserContext.values.adjust .commaToken = .commaToken := rfl
  simp only [parseLoop, lookahead, htk, parseRequirement_term k v tk tv _ htk htv hk hv, consume,
    hcomma, htk']
  rfl

end Terms

end Parser

section Selector

theorem lex_nil : lex [] = [(.endOfStringToken, "")] := by
  rw [lex]
  rfl

/-- The empty selector selects everything. -/
theorem labelsParse_empty : labelsParse "" = .ok [] := by
  rw [labelsParse, show ("" : String).data = [] from rfl, lex_nil]
  rfl

/-- A selector term `key=value`, with blanks around the value, parses to the equality
requirement. -/
theorem labelsParse_term_padded {k v : String} {p q : List Char} (hk : isQualifiedName k = true)
    (hv : isValidLabelValue v = true) (hne : v ≠ "") (hp : ∀ c ∈ p, isWhitespace c = true)
    (hq : ∀ c ∈ q, isWhitespace c = true) :
    labelsParse (k ++ "=" ++ String.mk (p ++ (v.data ++ q))) = .ok [⟨k, .opEquals, [v]⟩] := by
  have hlex := @lex_term_padded k v p q [] (isQualifiedName_chars hk) (isValidLabelValue_ne hv hne)
    hp hq (by simp)
  simp only [List.append_nil, lex_nil] at hlex
  have hdata : (k ++ "=" ++ String.mk (p ++ (v.data ++ q))).data =
      k.data ++ '=' :: (p ++ (v.data ++ q)) := by simp
  simp only [labelsParse, hdata, hlex]
  exact parseLoop_last k v _ _ (values_adjust_token (isQualifiedName_chars hk).2)
    (values_adjust_token (isValidLabelValue_ne hv hne).2) hk hv 3 []

/-- Two selector terms joined by a comma, with blanks around the values, parse to the two
equality requirements. -/
theorem labelsParse_two_terms_padded {k v k' v' : String} {p q p' q' : List Char}
    (hk : isQualifiedName k = true) (hv : isValidLabelValue v = true) (hne : v ≠ "")
    (hk' : isQualifiedName k' = true) (hv' : isValidLabelValue v' = true) (hne' : v' ≠ "")
    (hblank : ∀ c ∈ p ++ q ++ p' ++ q', isWhitespace c = true) :
    labelsParse (k ++ "=" ++ String.mk (p ++ (v.data ++ q)) ++ "," ++
        (k' ++ "=" ++ String.mk (p' ++ (v'.data ++ q')))) =
      .ok [⟨k, .opEquals, [v]⟩, ⟨k', .opEquals, [v']⟩] := by
  simp only [List.mem_append, or_imp, forall_and] at hblank
  obtain ⟨⟨⟨hp, hq⟩, hp'⟩, hq'⟩ := hblank
  have hkc := isQualifiedName_chars hk
  have hkc' := isQualifiedName_chars hk'
  have hvc := isValidLabelValue_ne hv hne
  have hvc' := isValidLabelValue_ne hv' hne'
  have hlex' := @lex_term_padded k' v' p' q' [] hkc' hvc' hp' hq' (by simp)
  simp only [List.append_nil, lex_nil] at hlex'
  have hcomma := lex_symbol ',' .commaToken (by decide) (by decide) (by decide) rfl
    (symbol_stop_of_identifier (@identifier_head k'.data ('=' :: (p' ++ (v'.data ++ q'))) hkc'))
  have hlex := @lex_term_padded k v p q (',' :: (k'.data ++ '=' :: (p' ++ (v'.data ++ q')))) hkc hvc
    hp hq (by simp; decide)
  have hdata : (k ++ "=" ++ String.mk (p ++ (v.data ++ q)) ++ "," ++
      (k' ++ "=" ++ String.mk (p' ++ (v'.data ++ q')))).data =
      k.data ++ '=' :: (p ++ (v.data ++ (q ++ ',' :: (k'.data ++ '=' :: (p' ++ (v'.data ++ q')))))) := by
    simp
  simp only [labelsParse, hdata, hlex, hcomma, hlex']
  exact (parseLoop_comma k v _ _ (values_adjust_token hkc.2) (values_adjust_token hvc.2) hk hv 7 []
    _ _ k' _ (values_adjust_token hkc'.2)).trans
    (parseLoop_last k' v' _ _ (values_adjust_token hkc'.2) (values_adjust_token hvc'.2) hk' hv' 6 _)

/-- The requirements the selector of `ListDomainDataGrant` stands for: an equality on the
vendor label and one on the grant-domain label, each for a non-empty filter. -/
def listRequirements (common : Common) (data : ListDomainDataGrantRequestData) :
    List Requirement :=
  (if data.domaindataVendor = "" then []
    else [⟨common.labelDomainDataGrantVendor, .opEquals, [data.domaindataVendor]⟩]) ++
  (if data.grantDomain = "" then []
    else [⟨common.labelDomainDataGrantDomain, .opEquals, [data.grantDomain]⟩])

/-- The selector string `ListDomainDataGrant` builds with field-selector code parses back, as a
label selector, to the requirements it was built from, whatever blanks stand around the
non-empty filters: the lexer drops them. -/
theorem labelsParse_listSelector_padded (common : Common) (data : ListDomainDataGrantRequestData)
    (hkeys : isQualifiedName common.labelDomainDataGrantVendor = true ∧
      isQualifiedName common.labelDomainDataGrantDomain = true)
    (hvendor : isValidLabelValue data.domaindataVendor = true)
    (hdomain : isValidLabelValue data.grantDomain = true) {pv qv pg qg : List Char}
    (hblank : ∀ c ∈ pv ++ qv ++ pg ++ qg, isWhitespace c = true)
    (hv : data.domaindataVendor = "" → pv = [] ∧ qv = [])
    (hg : data.grantDomain = "" → pg = [] ∧ qg = []) :
    labelsParse (listSelector common ⟨data.domainId,
        String.mk (pv ++ data.domaindataVendor.data ++ qv),
        String.mk (pg ++ data.grantDomain.data ++ qg)⟩) = .ok (listRequirements common data) := by
  obtain ⟨ns, v, g⟩ := data
  have hpad : ∀ {w : String} {p q : List Char}, w.data ≠ [] → String.mk (p ++ (w.data ++ q)) ≠ "" :=
    fun hw h => hw (List.append_eq_nil.mp (List.append_eq_nil.mp (congrArg String.data h)).2).1
  have hblanks := hblank
  simp only [List.mem_append, or_imp, forall_and] at hblanks
  obtain ⟨⟨⟨hpv, hqv⟩, hpg⟩, hqg⟩ := hblanks
  dsimp only at hv hg hvendor hdomain ⊢
  by_cases hv0 : v = "" <;> by_cases hg0 : g = ""
  · obtain ⟨rfl, rfl⟩ := hv hv0
    obtain ⟨rfl, rfl⟩ := hg hg0
    subst hv0 hg0
    simpa [listSelector, listRequirements] using labelsParse_empty
  · obtain ⟨rfl, rfl⟩ := hv hv0
    subst hv0
    simp [listSelector, listRequirements, hg0, FieldSelector.toString,
      hpad (isValidLabelValue_ne hdomain hg0).1, escapeValue_padded hdomain hpg hqg,
      labelsParse_term_padded hkeys.2 hdomain hg0 hpg hqg]
  · obtain ⟨rfl, rfl⟩ := hg hg0
    subst hg0
    simp [listSelector, listRequirements, hv0, FieldSelector.toString,
      hpad (isValidLabelValue_ne hvendor hv0).1, escapeValue_padded hvendor hpv hqv,
      labelsParse_term_padded hkeys.1 hvendor hv0 hpv hqv]
  · simpa [listSelector, listRequirements, hv0, hg0, FieldSelector.toString, String.intercalate,
      String.intercalate.go, hpad (isValidLabelValue_ne hvendor hv0).1,
      hpad (isValidLabelValue_ne hdomain hg0).1, escapeValue_padded hvendor hpv hqv,
      escapeValue_padded hdomain hpg hqg, String.append_assoc] using
      labelsParse_two_terms_padded hkeys.1 hvendor hv0 hkeys.2 hdomain hg0 hblank

theorem labelsParse_listSelector (common : Common) (data : ListDomainDataGrantRequestData)
    (hkeys : isQualifiedName common.labelDomainDataGrantVendor = true ∧
      isQualifiedName common.labelDomainDataGrantDomain = true)
    (hvendor : isValidLabelValue data.domaindataVendor = true)
    (hdomain : isValidLabelValue data.grantDomain = true) :
    labelsParse (listSelector common data) = .ok (listRequirements common data) := by
  simpa using @labelsParse_listSelector_padded common data hkeys hvendor hdomain [] [] [] []
    (by simp) (by simp) (by simp)

theorem Requirement.matches_equals (k v : String) (ls : List (String × String)) :
    (⟨k, .opEquals, [v]⟩ : Requirement).matches ls = decide (mapGet ls k = some v) := by
  simp only [Requirement.matches]
  cases mapGet ls k <;> simp [eq_comm]

theorem selectorMatches_listRequirements (common : Common) (data : ListDomainDataGrantRequestData)
    (ls : List (String × String)) :
    selectorMatches (listRequirements common data) ls =
      ((data.domaindataVendor = "" ||
          mapGet ls common.labelDomainDataGrantVendor = some data.domaindataVendor) &&
        (data.grantDomain = "" ||
          mapGet ls common.labelDomainDataGrantDomain = some data.grantDomain)) := by
  by_cases hv : data.domaindataVendor = "" <;> by_cases hg : data.grantDomain = "" <;>
    simp [selectorMatches, listRequirements, Requirement.matches_equals, hv, hg]

/-- From any state the service reaches, `ListDomainDataGrant` with a domain id and filters that
are label values succeeds, and answers, in the store's order, exactly the grants of that
namespace whose grant domain and vendor label match the non-empty filters. -/
theorem listDomainDataGrant_reachable (common : Common)
    (validateK8sName : String → String → Option String)
    (hkeys : isQualifiedName common.labelDomainDataGrantVendor = true ∧
      isQualifiedName common.labelDomainDataGrantDomain = true)
    {s : System} (hs : Reachable common validateK8sName s) (data : ListDomainDataGrantRequestData)
    (hid : data.domainId ≠ "") (hvendor : isValidLabelValue data.domaindataVendor = true)
    (hdomain : isValidLabelValue data.grantDomain = true) :
    (listDomainDataGrant common ⟨some data⟩).run s.store =
      (⟨buildSuccessResponseStatus, some ⟨(s.store.grants.filter fun e =>
          e.1 = data.domainId &&
            (data.grantDomain = "" || e.2.spec.grantDomain = data.grantDomain) &&
            (data.domaindataVendor = "" ||
              mapGet e.2.labels common.labelDomainDataGrantVendor = some data.domaindataVendor)).map
          fun e => convertSpec2Data e.2 {}⟩⟩, s.store) := by
  have hgrants := (reachable_systemOk hs).grants
  have hfilter : s.store.grants.filter (fun e => e.1 = data.domainId &&
      selectorMatches (listRequirements common data) e.2.labels) =
      s.store.grants.filter fun e =>
        e.1 = data.domainId && (data.grantDomain = "" || e.2.spec.grantDomain = data.grantDomain) &&
          (data.domaindataVendor = "" ||
            mapGet e.2.labels common.labelDomainDataGrantVendor = some data.domaindataVendor) := by
    refine List.filter_congr fun e he => ?_
    rw [selectorMatches_listRequirements, (hgrants e he).label]
    by_cases hv : data.domaindataVendor = "" <;> by_cases hg : data.grantDomain = "" <;>
      simp [hv, hg, Bool.and_comm, Bool.and_assoc]
  simp only [listDomainDataGrant, hid, if_false, Prog.run_call, Store.exec,
    labelsParse_listSelector common data hkeys hvendor hdomain, hfilter, Prog.run_pure, List.map_map]
  rfl

theorem listDomainDataGrant_reachable_after_create :
    let common : Common :=
      ⟨"kuscia.secretflow/domaindatagrant-vendor", "kuscia.secretflow/domaindatagrant-domain"⟩
    let st := Store.serve common (fun _ _ => none)
      ⟨[("alice", ⟨"data-1", 1⟩)], [], 0, fun _ => true, true, fun _ => true⟩
      [.create "" { domainId := "alice", domaindataId := "data-1", grantDomain := "bob",
                    domaindatagrantId := "grant-1" }]
    ∃ threads,
      (isQualifiedName common.labelDomainDataGrantVendor = true ∧
        isQualifiedName common.labelDomainDataGrantDomain = true) ∧
      Reachable common (fun _ _ => none) ⟨st, threads⟩ ∧
      ("alice" : String) ≠ "" ∧ isValidLabelValue "" = true ∧ isValidLabelValue "bob" = true ∧
      (listDomainDataGrant common ⟨some ⟨"alice", "", "bob"⟩⟩).run st =
        (⟨buildSuccessResponseStatus, some ⟨(st.grants.filter fun e =>
            e.1 = "alice" && ("bob" = "" || e.2.spec.grantDomain = "bob") &&
              ("" = "" || mapGet e.2.labels common.labelDomainDataGrantVendor = some "")).map
            fun e => convertSpec2Data e.2 {}⟩⟩, st) := by
  intro common st
  obtain ⟨threads, hreach⟩ := reachable_serve common (fun _ _ => none)
    ⟨[("alice", ⟨"data-1", 1⟩)], [], 0, fun _ => true, true, fun _ => true⟩ rfl
    [.create "" { domainId := "alice", domaindataId := "data-1", grantDomain := "bob",
                  domaindatagrantId := "grant-1" }]
  have hkeys : isQualifiedName common.labelDomainDataGrantVendor = true ∧
      isQualifiedName common.labelDomainDataGrantDomain = true := ⟨by decide, by decide⟩
  exact ⟨threads, hkeys, hreach, by decide, by decide, by decide,
    listDomainDataGrant_reachable common _ hkeys hreach ⟨"alice", "", "bob"⟩ (by decide) (by decide)
      (by decide)⟩

/-- Blanks around the non-empty filters of a `ListDomainDataGrant` request are dropped: on every
store the padded request answers what the request without them answers, so a filter value with
blanks lists the grants of the value without them. -/
theorem listDomainDataGrant_padded (common : Common)
    (hkeys : isQualifiedName common.labelDomainDataGrantVendor = true ∧
      isQualifiedName common.labelDomainDataGrantDomain = true)
    (st : Store) (data : ListDomainDataGrantRequestData)
    (hvendor : isValidLabelValue data.domaindataVendor = true)
    (hdomain : isValidLabelValue data.grantDomain = true) {pv qv pg qg : List Char}
    (hblank : ∀ c ∈ pv ++ qv ++ pg ++ qg, isWhitespace c = true)
    (hv : data.domaindataVendor = "" → pv = [] ∧ qv = [])
    (hg : data.grantDomain = "" → pg = [] ∧ qg = []) :
    (listDomainDataGrant common ⟨some ⟨data.domainId,
        String.mk (pv ++ data.domaindataVendor.data ++ qv),
        String.mk (pg ++ data.grantDomain.data ++ qg)⟩⟩).run st =
      (listDomainDataGrant common ⟨some data⟩).run st := by
  have hparse : labelsParse (listSelector common ⟨data.domainId,
      String.mk (pv ++ data.domaindataVendor.data ++ qv),
      String.mk (pg ++ data.grantDomain.data ++ qg)⟩) = labelsParse (listSelector common data) := by
    rw [labelsParse_listSelector_padded common data hkeys hvendor hdomain hblank hv hg,
      labelsParse_listSelector common data hkeys hvendor hdomain]
  simp only [listDomainDataGrant]
  split_ifs
  · rfl
  · simp only [Prog.run_call, Store.exec, hparse]
    cases labelsParse (listSelector common data) <;> rfl

/-- A grant-domain filter " bob\t" lists the grant made for "bob". -/
theorem listDomainDataGrant_padded_grant_domain :
    let common : Common :=
      ⟨"kuscia.secretflow/domaindatagrant-vendor", "kuscia.secretflow/domaindatagrant-domain"⟩
    let st := Store.serve common (fun _ _ => none)
      ⟨[("alice", ⟨"data-1", 1⟩)], [], 0, fun _ => true, true, fun _ => true⟩
      [.create "" { domainId := "alice", domaindataId := "data-1", grantDomain := "bob",
                    domaindatagrantId := "grant-1" }]
    let data : ListDomainDataGrantRequestData := ⟨"alice", "", "bob"⟩
    (isQualifiedName common.labelDomainDataGrantVendor = true ∧
      isQualifiedName common.labelDomainDataGrantDomain = true) ∧
    isValidLabelValue data.domaindataVendor = true ∧ isValidLabelValue data.grantDomain = true ∧
    (∀ c ∈ [] ++ [] ++ [' '] ++ ['\t'], isWhitespace c = true) ∧
    (data.domaindataVendor = "" → ([] : List Char) = [] ∧ ([] : List Char) = []) ∧
    (data.grantDomain = "" → [' '] = [] ∧ ['\t'] = []) ∧
    ((listDomainDataGrant common ⟨some data⟩).run st).1.data.map (·.domaindatagrantList.length) =
      some 1 ∧
    (listDomainDataGrant common ⟨some ⟨data.domainId, String.mk ([] ++ data.domaindataVendor.data ++ []),
        String.mk ([' '] ++ data.grantDomain.data ++ ['\t'])⟩⟩).run st =
      (listDomainDataGrant common ⟨some data⟩).run st := by
  intro common st data
  have hkeys : isQualifiedName common.labelDomainDataGrantVendor = true ∧
      isQualifiedName common.labelDomainDataGrantDomain = true := ⟨by decide, by decide⟩
  have hlist : ((listDomainDataGrant common ⟨some data⟩).run st).1.data.map
      (·.domaindatagrantList.length) = some 1 := by
    simp only [listDomainDataGrant, if_neg (show ¬(data.domainId = "") by decide), Prog.run_call,
      Store.exec, labelsParse_listSelector common data hkeys (by decide) (by decide)]
    decide
  exact ⟨hkeys, by decide, by decide, by decide, by decide, by decide, hlist,
    listDomainDataGrant_padded common hkeys st data (by decide) (by decide) (by decide) (by decide)
      (by decide)⟩

end Selector

end KusciaGrant
