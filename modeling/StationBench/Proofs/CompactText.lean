import StationBench.Json.Printer
import StationBench.Proofs.Ascending
import StationBench.Proofs.Numerals
/-!
# Compact texts are read back

The compact text of a value is cut into the tokens of the value (`Value.tokens_chars`), the tokens
make up the outline of the value (`Value.foldl_step_tokens`), and the outline is read as the value
(`Value.written_outline`). So a value without reals that is not nested too deep is read back from
its compact text (`Value.read_compact`), and its text tells it from all others.
-/
namespace StationBench.Json

/-! ## Values that are read back -/

/-- A whole number in the form in which it is read: what counts as below zero is. -/
def Number.Whole : Number → Prop
  | .natural _ => True
  | .negative n => n < 0
  | .real _ => False

namespace Value

mutual

/-- All numbers are whole, and no value stands in more than `room` containers. -/
def Fits (room : Nat) : Value → Prop
  | .null | .bool _ | .string _ => True
  | .number n => n.Whole
  | .array items => 0 < room ∧ FitItems (room - 1) items
  | .object members => 0 < room ∧ FitMembers (room - 1) members

def FitItems (room : Nat) : List Value → Prop
  | [] => True
  | v :: rest => Fits room v ∧ FitItems room rest

def FitMembers (room : Nat) : List (String × Value) → Prop
  | [] => True
  | (_, v) :: rest => Fits room v ∧ FitMembers room rest

end

end Value

theorem Number.whole_ofInt64 (i : Int64) : (Number.ofInt64 i).Whole := by
  unfold Number.ofInt64
  split
  · next h => exact h
  · trivial

theorem Number.toInt64_ofInt64 (i : Int64) : (Number.ofInt64 i).toInt64 = .ok i := by
  unfold Number.ofInt64
  split
  · rfl
  · next h =>
    have hpos : (0 : Int) ≤ i.toInt := Int.not_lt.1 fun hneg => h (Int64.lt_iff_toInt_lt.2 hneg)
    have hlt := i.toInt_lt
    have hnat : i.toUInt64.toNat = i.toInt.toNat :=
      i.toNat_toUInt64_of_le (Int64.le_iff_toInt_le.2 hpos)
    rw [Number.toInt64, if_pos (by rw [hnat]; simp only [Decimal.signedBound]; omega)]
    rfl

namespace Value

variable {α : Type} (write : α → Value) {room : Nat}

theorem fits_ofOption (h : ∀ a, (write a).Fits room) (o : Option α) :
    (ofOption write o).Fits room := by
  cases o with
  | none => trivial
  | some a => exact h a

theorem fits_ofList (hroom : 0 < room) (h : ∀ a, (write a).Fits (room - 1)) (l : List α) :
    (ofList write l).Fits room := by
  refine ⟨hroom, ?_⟩
  induction l with
  | nil => trivial
  | cons a rest ih => exact ⟨h a, ih⟩

end Value

/-! ## What is written as what -/

/-- A number as it is written. A real is written in other ways. -/
def Number.literal : Number → Literal
  | .natural n => { negative := false, whole := Decimal.digits n.toNat }
  | .negative n => { negative := true, whole := Decimal.digits n.toInt.natAbs }
  | .real _ => { negative := false, whole := [] }

/-- A character of a string as it is written. -/
def Piece.ofChar (c : Char) : Piece :=
  if c ∈ ['"', '\\', '\x08', '\x0c', '\n', '\r', '\t'] then .escaped c
  else if c.toNat < 0x20 then .unit c.toNat
  else .plain c

def Quotation.ofString (s : String) : Quotation := ⟨s.toList.map .ofChar, .closed⟩

namespace Value

mutual

/-- The tokens of the text of a value. -/
def tokens : Value → List Token
  | .null => [.null]
  | .bool b => [.bool b]
  | .number n => [.number n.literal]
  | .string s => [.string (.ofString s)]
  | .array [] => [.openBracket, .closeBracket]
  | .array (v :: rest) => .openBracket :: (tokens v ++ itemTokens rest)
  | .object [] => [.openBrace, .closeBrace]
  | .object ((k, v) :: rest) =>
    .openBrace :: .string (.ofString k) :: .colon :: (tokens v ++ memberTokens rest)

/-- The items after the first, and the closing bracket. -/
def itemTokens : List Value → List Token
  | [] => [.closeBracket]
  | v :: rest => .comma :: (tokens v ++ itemTokens rest)

/-- The members after the first, and the closing brace. -/
def memberTokens : List (String × Value) → List Token
  | [] => [.closeBrace]
  | (k, v) :: rest => .comma :: .string (.ofString k) :: .colon :: (tokens v ++ memberTokens rest)

end

mutual

/-- The outline of a value that stands in `level` containers. -/
def outline (level : Nat) : Value → Outline
  | .null => .null
  | .bool b => .bool b
  | .number n => .number n.literal
  | .string s => .string (.ofString s)
  | .array items => .array (level + 1) (outlineItems (level + 1) items)
  | .object members => .object (level + 1) (outlineFields (level + 1) members)

def outlineItems (level : Nat) : List Value → Items
  | [] => .done .closed
  | v :: rest => .item (outline level v) (outlineItems level rest)

def outlineFields (level : Nat) : List (String × Value) → Fields
  | [] => .done .closed
  | (k, v) :: rest => .field (.ofString k) (outline level v) (outlineFields level rest)

end

end Value

/-! ## From characters to tokens -/

/-- A text that ends or goes on with what may follow a value in a container. -/
def Delimited (rest : List Char) : Prop := ∀ c, rest.head? = some c → c ∈ [',', ']', '\x7d']

theorem delimited_nil : Delimited [] := nofun

theorem delimited_cons {c : Char} (h : c ∈ [',', ']', '\x7d']) (rest : List Char) :
    Delimited (c :: rest) := by
  rintro _ ⟨rfl⟩
  exact h

theorem tokens_cons {c : Char} (h : isBlank c = false) (rest : List Char) :
    tokens (c :: rest) = (scanToken c rest).1 :: tokens (scanToken c rest).2 := by
  rw [tokens, if_neg (by simp [h])]

/-! ### Numbers -/

section
variable {rest : List Char} (hrest : Delimited rest)
include hrest

theorem scanFraction_of_delimited (lit : Literal) : scanFraction lit rest = (.ok lit, rest) := by
  cases rest with
  | nil => rfl
  | cons c rest =>
    have hc := hrest c rfl
    simp only [List.mem_cons, List.not_mem_nil, or_false] at hc
    rcases hc with rfl | rfl | rfl <;> rfl

theorem scanMagnitude_digits (negative : Bool) (n : Nat) :
    scanMagnitude negative (Decimal.digits n ++ rest) =
      (.ok { negative, whole := Decimal.digits n }, rest) := by
  have hend : ∀ c, rest.head? = some c → c.isDigit = false := by
    intro c hc
    have hmem := hrest c hc
    simp only [List.mem_cons, List.not_mem_nil, or_false] at hmem
    rcases hmem with rfl | rfl | rfl <;> rfl
  have hsplit : splitDigits (Decimal.digits n ++ rest) = (Decimal.digits n, rest) :=
    Prod.ext_iff.2 (Text.cut_append (Decimal.all_isDigit_digits n) hend)
  unfold scanMagnitude
  rw [hsplit]
  rcases Decimal.digits_eq n with ⟨-, hds⟩ | ⟨-, d, ds, hds, hd⟩
  · rw [hds]
    exact scanFraction_of_delimited hrest _
  · rw [hds]
    split
    · next h => cases h
    · next h => cases h; exact absurd rfl hd
    · next h => cases h; exact absurd rfl hd
    · next h => cases h; exact scanFraction_of_delimited hrest _

theorem scanNumber_chars {n : Number} (h : n.Whole) :
    scanNumber (n.chars ++ rest) = (.ok n.literal, rest) := by
  cases n with
  | natural n =>
    rw [Number.chars, scanNumber]
    · exact scanMagnitude_digits hrest false n.toNat
    · intro cs hcs
      rcases Decimal.digits_eq n.toNat with ⟨-, hds⟩ | ⟨-, d, ds, hds, -⟩
      · simp [hds] at hcs
      · rw [hds] at hcs
        obtain ⟨rfl, -⟩ := List.cons.inj hcs
        exact Decimal.not_mem_digits rfl n.toNat (hds ▸ List.mem_cons_self)
  | negative n =>
    have hneg : n.toInt < 0 := Int64.lt_iff_toInt_lt.1 (h : n < 0)
    rw [Number.chars, Decimal.signedDigits, if_pos hneg]
    exact scanMagnitude_digits hrest true n.toInt.natAbs
  | real x => exact h.elim

end

/-- A number starts with a sign or a digit. -/
theorem chars_eq {n : Number} (h : n.Whole) :
    ∃ c cs, n.chars = c :: cs ∧ (c = '-' ∨ c.isDigit = true) := by
  have hdigits (m : Nat) : ∃ c cs, Decimal.digits m = c :: cs ∧ (c = '-' ∨ c.isDigit = true) := by
    obtain ⟨c, cs, hcs⟩ := List.exists_cons_of_ne_nil (Decimal.digits_ne_nil m)
    exact ⟨c, cs, hcs, Or.inr (Decimal.all_isDigit_digits m c (by simp [hcs]))⟩
  cases n with
  | natural n => exact hdigits n.toNat
  | negative n =>
    rw [Number.chars, Decimal.signedDigits]
    split
    · exact ⟨'-', _, rfl, Or.inl rfl⟩
    · exact hdigits _
  | real x => exact h.elim

theorem scanToken_number {c : Char} (h : c = '-' ∨ c.isDigit = true) (rest : List Char) :
    scanToken c rest = scanNumberToken (c :: rest) := by
  unfold scanToken
  split
  iterate 10 exact absurd h (by decide)
  rw [if_pos (by simpa using h)]

theorem isBlank_of_number {c : Char} (h : c = '-' ∨ c.isDigit = true) : isBlank c = false := by
  rcases h with rfl | h
  · rfl
  · have hne (d : Char) (hd : d.isDigit = false) : c ≠ d := by
      rintro rfl
      exact absurd h (by simp [hd])
    simp [isBlank, hne ' ' rfl, hne '\n' rfl, hne '\t' rfl, hne '\r' rfl]

theorem tokens_number {n : Number} (h : n.Whole) {rest : List Char} (hrest : Delimited rest) :
    tokens (n.chars ++ rest) = .number n.literal :: tokens rest := by
  obtain ⟨c, cs, hcs, hc⟩ := chars_eq h
  have hscan := scanNumber_chars hrest h
  rw [hcs, List.cons_append] at hscan ⊢
  rw [tokens_cons (isBlank_of_number hc), scanToken_number hc, scanNumberToken, hscan]

theorem value_literal {n : Number} (h : n.Whole) : n.literal.value = .ok n := by
  cases n with
  | natural n =>
    have hlt : n.toNat < UInt64.size := n.toNat_lt
    simp [Number.literal, Literal.value, Decimal.value_digits, hlt]
  | negative n =>
    have hneg : n.toInt < 0 := Int64.lt_iff_toInt_lt.1 (h : n < 0)
    have hpos : 0 < n.toInt.natAbs := by omega
    have hle : n.toInt.natAbs ≤ Decimal.signedBound := by
      have := n.le_toInt
      simp only [Decimal.signedBound]
      omega
    have hback : -(n.toInt.natAbs : Int) = n.toInt := by omega
    simp only [Number.literal, Literal.value, Decimal.value_digits, Bool.not_true, Bool.false_and,
      Bool.true_and, hpos, hle, decide_true, hback, Int64.ofInt_toInt, if_true, Bool.false_eq_true,
      if_false]
  | real x => exact h.elim

/-! ### Strings -/

theorem hexValue?_hexDigit : ∀ d < 16, Text.hexValue? (hexDigit d) = some d := by decide

theorem scanString_escapeChar (c : Char) (rest : List Char) :
    scanString .none (escapeChar c ++ rest) = pushPiece (.ofChar c) (scanString .none rest) := by
  unfold escapeChar
  split
  iterate 7 rfl
  next h1 h2 h3 h4 h5 h6 h7 =>
  have hplain : c ∉ ['"', '\\', '\x08', '\x0c', '\n', '\r', '\t'] := by
    simp only [List.mem_cons, List.not_mem_nil, or_false, not_or]
    exact ⟨h1, h2, h3, h4, h5, h6, h7⟩
  split
  · next hc =>
    have hhigh := hexValue?_hexDigit (c.toNat / 16) (by omega)
    have hlow := hexValue?_hexDigit (c.toNat % 16) (by omega)
    have hzero : Text.hexValue? '0' = some 0 := by decide
    have hunit : 16 * (c.toNat / 16) + c.toNat % 16 = c.toNat := by omega
    simp [scanString, hhigh, hlow, hzero, hunit, Piece.ofChar, hplain, hc]
  · next hc =>
    have hquote : c ≠ '"' := h1
    have hbackslash : c ≠ '\\' := h2
    simp [scanString, hquote, hbackslash, hc, Piece.ofChar, hplain]

theorem scanString_chars (cs rest : List Char) :
    scanString .none (cs.flatMap escapeChar ++ '"' :: rest) =
      (⟨cs.map .ofChar, .closed⟩, rest) := by
  induction cs with
  | nil => rfl
  | cons c cs ih =>
    rw [List.flatMap_cons, List.append_assoc, scanString_escapeChar, ih]
    rfl

theorem tokens_string (s : String) (rest : List Char) :
    tokens (stringChars s ++ rest) = .string (.ofString s) :: tokens rest := by
  have hscan := scanString_chars s.toList rest
  simp only [stringChars, List.cons_append, List.append_assoc, List.nil_append]
  rw [tokens_cons rfl, scanToken, hscan]
  rfl

theorem tokens_key (k : String) (rest : List Char) :
    tokens (stringChars k ++ ':' :: rest) = .string (.ofString k) :: .colon :: tokens rest := by
  rw [tokens_string, tokens_cons rfl]
  rfl

theorem decodePieces_ofChar (ending : StringEnd) (c : Char) (rest : List Piece) :
    decodePieces ending (.ofChar c :: rest) = (c :: ·) <$> decodePieces ending rest := by
  unfold Piece.ofChar
  split
  · rfl
  split
  · next hc =>
    have htrailing : isTrailingSurrogate c.toNat = false := by simp [isTrailingSurrogate]; omega
    have hleading : isLeadingSurrogate c.toNat = false := by simp [isLeadingSurrogate]; omega
    rcases rest with _ | ⟨_ | _ | v, rest⟩ <;>
      simp [decodePieces, htrailing, hleading]
  · rfl

theorem decode_ofString (s : String) : (Quotation.ofString s).decode = .ok s := by
  have hchars (cs : List Char) : decodePieces .closed (cs.map .ofChar) = .ok cs := by
    induction cs with
    | nil => rfl
    | cons c cs ih =>
      rw [List.map_cons, decodePieces_ofChar, ih]
      rfl
  rw [Quotation.decode, Quotation.ofString, hchars]
  exact congrArg Except.ok String.ofList_toList

theorem textKey_ofString (s : String) : (Quotation.ofString s).textKey = .ok s := by
  rw [Quotation.textKey, decode_ofString]
  rfl

/-! ### Whole values -/

theorem scanWord_append (token : Token) (word rest : List Char) :
    scanWord token word (word ++ rest) = (token, rest) := by
  induction word with
  | nil => rfl
  | cons w word ih =>
    rw [List.cons_append, scanWord, if_pos rfl]
    exact ih

theorem tokens_null (rest : List Char) : tokens (nullChars ++ rest) = .null :: tokens rest := by
  rw [nullChars, List.cons_append, tokens_cons rfl]
  exact congrArg (fun p : Token × List Char => p.1 :: tokens p.2) (scanWord_append .null _ rest)

theorem tokens_bool (b : Bool) (rest : List Char) :
    tokens (boolChars b ++ rest) = .bool b :: tokens rest := by
  cases b <;>
    · rw [boolChars, List.cons_append, tokens_cons rfl]
      exact congrArg (fun p : Token × List Char => p.1 :: tokens p.2)
        (scanWord_append (.bool _) _ rest)

theorem delimited_itemChars (items : List Value) (rest : List Char) :
    Delimited (Value.itemChars items ++ rest) := by
  cases items <;> exact delimited_cons (by simp) _

theorem delimited_memberChars (members : List (String × Value)) (rest : List Char) :
    Delimited (Value.memberChars members ++ rest) := by
  cases members with
  | nil => exact delimited_cons (by simp) _
  | cons m members => exact delimited_cons (by simp) _

namespace Value

mutual

/-- The text of a value is cut into its tokens, whatever comes after it in a container. -/
theorem tokens_chars {room : Nat} : ∀ {v : Value}, v.Fits room → ∀ {rest : List Char},
    Delimited rest → Json.tokens (v.chars ++ rest) = v.tokens ++ Json.tokens rest
  | .null, _, rest, _ => tokens_null rest
  | .bool b, _, rest, _ => tokens_bool b rest
  | .number n, h, rest, hrest => tokens_number h hrest
  | .string s, _, rest, _ => tokens_string s rest
  | .array [], _, rest, _ => by
    rw [chars, List.cons_append, tokens_cons rfl]
    exact congrArg (Token.openBracket :: ·) (tokens_cons rfl _)
  | .array (v :: items), h, rest, hrest => by
    obtain ⟨-, hv, hitems⟩ := h
    rw [chars, List.cons_append, tokens_cons rfl, tokens, List.cons_append, List.append_assoc,
      List.append_assoc, ← tokens_itemChars hitems, ← tokens_chars hv (delimited_itemChars _ _)]
    rfl
  | .object [], _, rest, _ => by
    rw [chars, List.cons_append, tokens_cons rfl]
    exact congrArg (Token.openBrace :: ·) (tokens_cons rfl _)
  | .object ((k, v) :: members), h, rest, hrest => by
    obtain ⟨-, hv, hmembers⟩ := h
    rw [chars, List.cons_append, tokens_cons rfl, tokens]
    simp only [List.cons_append, List.append_assoc]
    rw [← tokens_memberChars hmembers, ← tokens_chars hv (delimited_memberChars _ _),
      ← tokens_key]
    rfl

theorem tokens_itemChars {room : Nat} : ∀ {l : List Value}, FitItems room l →
    ∀ {rest : List Char}, Json.tokens (itemChars l ++ rest) = itemTokens l ++ Json.tokens rest
  | [], _, rest => tokens_cons rfl _
  | v :: l, h, rest => by
    obtain ⟨hv, hl⟩ := h
    rw [itemChars, List.cons_append, tokens_cons rfl, itemTokens, List.cons_append,
      List.append_assoc, List.append_assoc, ← tokens_itemChars hl,
      ← tokens_chars hv (delimited_itemChars _ _)]
    rfl

theorem tokens_memberChars {room : Nat} : ∀ {l : List (String × Value)}, FitMembers room l →
    ∀ {rest : List Char}, Json.tokens (memberChars l ++ rest) = memberTokens l ++ Json.tokens rest
  | [], _, rest => tokens_cons rfl _
  | (k, v) :: l, h, rest => by
    obtain ⟨hv, hl⟩ := h
    rw [memberChars, List.cons_append, tokens_cons rfl, memberTokens]
    simp only [List.cons_append, List.append_assoc]
    rw [← tokens_memberChars hl, ← tokens_chars hv (delimited_memberChars _ _),
      ← tokens_key]
    rfl

end

end Value

/-! ## From tokens to the outline -/

open Position

/-- A value does not start with a closing bracket, so it may stand where an array could end. -/
theorem foldl_step_inArray (v : Value) (items : List Outline) (parents : List Parent) :
    v.tokens.foldl step (.nextItem items parents) =
        v.tokens.foldl step (.value (inArray items parents)) ∧
      v.tokens.foldl step (.firstItem parents) =
        v.tokens.foldl step (.value (inArray [] parents)) := by
  rcases v with _ | _ | _ | _ | (_ | _) | (_ | ⟨⟨_, _⟩, _⟩) <;> exact ⟨rfl, rfl⟩

namespace Value

mutual

/-- The tokens of a value make up its outline, whatever containers it stands in. -/
theorem foldl_step_tokens : ∀ (v : Value) (parents : List Parent),
    v.tokens.foldl step (.value parents) = after (v.outline (Parent.levelOf parents)) parents
  | .null, _ | .bool _, _ | .number _, _ | .string _, _ | .array [], _ | .object [], _ => rfl
  | .array (v :: items), parents => by
    rw [tokens, List.foldl_cons, List.foldl_append]
    change (itemTokens items).foldl step (v.tokens.foldl step (.firstItem parents)) = _
    rw [(foldl_step_inArray v [] parents).2, foldl_step_tokens]
    exact foldl_step_itemTokens items [v.outline (Parent.levelOf parents + 1)] parents
  | .object ((k, v) :: members), parents => by
    rw [tokens, List.foldl_cons, List.foldl_cons, List.foldl_cons, List.foldl_append]
    change (memberTokens members).foldl step
      (v.tokens.foldl step (.value (inMember [] (.ofString k) parents))) = _
    rw [foldl_step_tokens]
    exact foldl_step_memberTokens members [(.ofString k, v.outline (Parent.levelOf parents + 1))]
      parents

theorem foldl_step_itemTokens : ∀ (l : List Value) (items : List Outline) (parents : List Parent),
    (itemTokens l).foldl step (.afterItem items parents) =
      after (.array (Parent.levelOf parents + 1)
        (.ofReversed (outlineItems (Parent.levelOf parents + 1) l) items)) parents
  | [], _, _ => rfl
  | v :: l, items, parents => by
    rw [itemTokens, List.foldl_cons, List.foldl_append]
    change (itemTokens l).foldl step (v.tokens.foldl step (.nextItem items parents)) = _
    rw [(foldl_step_inArray v items parents).1, foldl_step_tokens]
    exact foldl_step_itemTokens l (v.outline (Parent.levelOf parents + 1) :: items) parents

theorem foldl_step_memberTokens : ∀ (l : List (String × Value))
    (fields : List (Quotation × Outline)) (parents : List Parent),
    (memberTokens l).foldl step (.afterField fields parents) =
      after (.object (Parent.levelOf parents + 1)
        (.ofReversed (outlineFields (Parent.levelOf parents + 1) l) fields)) parents
  | [], _, _ => rfl
  | (k, v) :: l, fields, parents => by
    rw [memberTokens, List.foldl_cons, List.foldl_cons, List.foldl_cons, List.foldl_append]
    change (memberTokens l).foldl step
      (v.tokens.foldl step (.value (inMember fields (.ofString k) parents))) = _
    rw [foldl_step_tokens]
    exact foldl_step_memberTokens l
      ((.ofString k, v.outline (Parent.levelOf parents + 1)) :: fields) parents

end

/-- The text of a value is a document with the outline of the value and nothing after it. -/
theorem ofText_compact {room : Nat} {v : Value} (h : v.Fits room) :
    Document.ofText v.compact = ⟨v.outline 0, false⟩ := by
  have htokens : Json.tokens v.compact.toList = v.tokens := by
    rw [compact, String.toList_ofList, ← List.append_nil v.chars, tokens_chars h delimited_nil,
      Json.tokens, List.append_nil]
  rw [Document.ofText, htokens, foldl_step_tokens]
  rfl

/-! ## From the outline to the value -/

mutual

/-- The outline of a value is read as the value, where there is room for it. -/
theorem written_outline {room level : Nat} (hlevel : level + room ≤ deepestLevel) :
    ∀ {v : Value}, v.Fits room → (v.outline level).written = .ok v
  | .null, _ | .bool _, _ => rfl
  | .number n, h => by
    rw [outline, Outline.written, value_literal h]
    rfl
  | .string s, _ => by
    rw [outline, Outline.written, decode_ofString]
    rfl
  | .array items, ⟨hroom, hitems⟩ => by
    have hinside : level + 1 + (room - 1) ≤ deepestLevel := by omega
    have hchecked : checkLevel (level + 1) = .ok () := if_pos (by omega)
    rw [outline, Outline.written, hchecked, written_outlineItems hinside hitems]
    rfl
  | .object members, ⟨hroom, hmembers⟩ => by
    have hinside : level + 1 + (room - 1) ≤ deepestLevel := by omega
    have hchecked : checkLevel (level + 1) = .ok () := if_pos (by omega)
    rw [outline, Outline.written, hchecked, written_outlineFields hinside hmembers]
    rfl

theorem written_outlineItems {room level : Nat} (hlevel : level + room ≤ deepestLevel) :
    ∀ {l : List Value}, FitItems room l → (outlineItems level l).written = .ok l
  | [], _ => rfl
  | v :: l, ⟨hv, hl⟩ => by
    rw [outlineItems, Items.written, written_outline hlevel hv, written_outlineItems hlevel hl]
    rfl

theorem written_outlineFields {room level : Nat} (hlevel : level + room ≤ deepestLevel) :
    ∀ {l : List (String × Value)}, FitMembers room l → (outlineFields level l).written = .ok l
  | [], _ => rfl
  | (k, v) :: l, ⟨hv, hl⟩ => by
    rw [outlineFields, Fields.written, textKey_ofString, written_outline hlevel hv,
      written_outlineFields hlevel hl]
    rfl

end

/-- **A value is read back from its compact text**, if its numbers are whole and it is not nested
too deep. -/
theorem read_compact {v : Value} (h : v.Fits deepestLevel) :
    Json.read Outline.written v.compact = .ok v := by
  rw [read_eq_ok_iff, ofText_compact h]
  exact ⟨written_outline (by simp) h, rfl⟩

end Value

end StationBench.Json
