import Maquette.Json.Printer
import Maquette.Json.Reader

/-!
# Units of texts

A text in JSON is a row of units: a character of the basic plane is one unit, any
other one is a pair, and a half that stands alone is one unit again. `units` is that
row, and joining it gives the text back, with one exception: a first half directly in
front of a second one would be taken for a pair. `halvesApart` says that there is
no such place. A text of nothing but characters has none, whichever characters these
are.
-/

namespace Maquette

namespace Text

/-- The halves in a row of symbols do not make up pairs: no first half stands directly in
front of a second one. -/
def halvesApart : List Symbol → Bool
  | s :: t :: rest =>
    !(s.half?.any isHighHalf && t.half?.any isLowHalf) && halvesApart (t :: rest)
  | _ => true

/-- The characters are the kept form of a text whose halves do not make up pairs. -/
def isPortable (s : List Char) : Bool :=
  decide (ofSymbols (symbols s) = s) && halvesApart (symbols s)

theorem halvesApart_of_none {row : List Symbol} (h : ∀ s ∈ row, s.half? = none) :
    halvesApart row = true := by
  induction row with
  | nil => rfl
  | cons s rest ih =>
    cases rest with
    | nil => rfl
    | cons t more =>
      have hrest := ih fun t ht => h t (List.mem_cons_of_mem _ ht)
      rw [halvesApart, h s List.mem_cons_self, hrest]
      rfl

theorem isPortable_ofSymbols (row : List Symbol) :
    isPortable (ofSymbols row) = halvesApart row := by
  rw [isPortable, symbols_ofSymbols, decide_eq_true rfl, Bool.true_and]

/-- A text that has nothing but characters is portable. -/
theorem isPortable_ofChars (chars : List Char) : isPortable (ofChars chars) = true := by
  rw [ofChars, isPortable_ofSymbols]
  refine halvesApart_of_none ?_
  intro s hs
  obtain ⟨c, -, rfl⟩ := List.mem_map.1 hs
  rfl

theorem isPortable_kept (text : String) : isPortable (kept text).toList = true := by
  rw [kept, String.toList_ofList]
  exact isPortable_ofChars text.toList

theorem isPortable_of_all_not_isReserved {s : List Char} (h : ∀ c ∈ s, isReserved c = false) :
    isPortable s = true := by
  rw [← ofChars_of_all_not_isReserved h]
  exact isPortable_ofChars s

/-! ## Hexadecimal digits -/

theorem hexValue?_digitChar : ∀ n < 16, hexValue? (Nat.digitChar n) = some n := by
  decide

theorem hex_one {n : Nat} (h : n < 16) : hex 1 n = [Nat.digitChar n] := by
  unfold hex
  dsimp only
  rw [Nat.toDigits_of_lt_base h]
  rfl

/-- The last digit is taken off. -/
theorem hex_succ (width n : Nat) :
    hex (width + 2) n = hex (width + 1) (n / 16) ++ [Nat.digitChar (n % 16)] := by
  unfold hex
  dsimp only
  rcases Nat.lt_or_ge n 16 with hlt | hge
  · have hzero : n / 16 = 0 := by omega
    have hmod : n % 16 = n := Nat.mod_eq_of_lt hlt
    rw [hzero, hmod, Nat.toDigits_of_lt_base hlt, Nat.toDigits_of_lt_base (by decide : 0 < 16)]
    exact congrArg (· ++ [Nat.digitChar n]) List.replicate_succ'
  · rw [Nat.toDigits_of_base_le (by decide) hge, List.length_append, List.length_singleton,
      List.append_assoc]
    exact congrArg (List.replicate · '0' ++ _) (Nat.add_sub_add_right _ 1 _)

theorem hex_four {n : Nat} (h : n < 0x10000) :
    hex 4 n = [Nat.digitChar (n / 4096), Nat.digitChar (n / 256 % 16),
      Nat.digitChar (n / 16 % 16), Nat.digitChar (n % 16)] := by
  have hsixteens : n / 16 / 16 = n / 256 ∧ n / 256 / 16 = n / 4096 := by omega
  rw [hex_succ 2, hex_succ 1, hex_succ 0, hsixteens.1, hsixteens.2, hex_one (by omega)]
  rfl

end Text

namespace Json

open Text

/-! ## Units of symbols -/

/-- The units of a symbol: one, or the two halves of a pair. -/
def symbolUnits (s : Symbol) : List Nat :=
  let n := s.codePoint
  if n < 0x10000 then [n]
  else [0xd800 + (n - 0x10000) / 0x400, 0xdc00 + (n - 0x10000) % 0x400]

def units (row : List Symbol) : List Nat :=
  row.flatMap symbolUnits

theorem unit?_hex {n : Nat} (h : n < 0x10000) :
    unit? (Nat.digitChar (n / 4096)) (Nat.digitChar (n / 256 % 16))
      (Nat.digitChar (n / 16 % 16)) (Nat.digitChar (n % 16)) = some n := by
  unfold unit?
  rw [hexValue?_digitChar _ (by omega), hexValue?_digitChar _ (by omega),
    hexValue?_digitChar _ (by omega), hexValue?_digitChar _ (by omega)]
  have hn : ((n / 4096 * 16 + n / 256 % 16) * 16 + n / 16 % 16) * 16 + n % 16 = n := by omega
  simp only [bind, Option.bind, pure, hn]

/-- What is read off units that stand in front of a text. -/
def prepend (front : List Nat) (found : List Nat × List Char) : List Nat × List Char :=
  (front ++ found.1, found.2)

theorem readUnits_unitEscape {n : Nat} (h : n < 0x10000) (rest : List Char) :
    readUnits (unitEscape n ++ rest) = (readUnits rest).map (prepend [n]) := by
  unfold unitEscape
  rw [hex_four h]
  simp only [List.cons_append, List.nil_append]
  rw [readUnits, unit?_hex h]
  cases readUnits rest <;> rfl

theorem readUnits_charEscape (c : Char) (rest : List Char) :
    readUnits (charEscape c ++ rest) = (readUnits rest).map (prepend (symbolUnits (.char c))) := by
  have hn : c.toNat < 0x110000 := (Symbol.char c).codePoint_lt
  unfold charEscape symbolUnits Symbol.codePoint
  dsimp only
  split
  · next hlow => exact readUnits_unitEscape hlow rest
  · next hhigh =>
    rw [List.append_assoc, readUnits_unitEscape (by omega), readUnits_unitEscape (by omega)]
    cases readUnits rest <;> rfl

theorem symbolUnits_of_lt {s : Symbol} (h : s.codePoint < 0x10000) :
    symbolUnits s = [s.codePoint] :=
  if_pos h

/-- The characters with a letter of their own, and the letters. -/
def shortEscapes : List (Char × Char) := [
  ('"', '"'), ('\\', '\\'), ('\n', 'n'), ('\r', 'r'), ('\t', 't'), ('\x08', 'b'), ('\x0c', 'f')]

theorem mem_shortEscapes {c letter : Char} (h : shortEscape? c = some letter) :
    (c, letter) ∈ shortEscapes := by
  unfold shortEscape? at h
  split at h
  · next hc =>
    obtain rfl := Option.some.inj h
    rcases hc with rfl | rfl <;> decide
  · repeat' split at h
    all_goals simp only [Option.some.injEq, reduceCtorEq] at h
    all_goals subst h
    all_goals simp_all [shortEscapes]

theorem readUnits_shortEscape {c letter : Char} (h : shortEscape? c = some letter)
    (rest : List Char) :
    readUnits ('\\' :: letter :: rest) =
      (readUnits rest).map (prepend (symbolUnits (.char c))) := by
  have hmem := mem_shortEscapes h
  have hread : escapedChar? letter = some c ∧ letter ≠ 'u' ∧
      symbolUnits (.char c) = [c.toNat] := by
    have hall : ∀ pair ∈ shortEscapes, escapedChar? pair.2 = some pair.1 ∧ pair.2 ≠ 'u' ∧
        symbolUnits (.char pair.1) = [pair.1.toNat] := by decide
    exact hall (c, letter) hmem
  rw [readUnits]
  · rw [hread.1, hread.2.2]
    cases readUnits rest <;> rfl
  · intro a b c d rest hu
    exact absurd hu hread.2.1

/-- A character that stands for itself. -/
theorem readUnits_self {c : Char} (hquote : c ≠ '"') (hslash : c ≠ '\\') (hlow : 0x20 ≤ c.toNat)
    (rest : List Char) :
    readUnits (c :: rest) = (readUnits rest).map (prepend [c.toNat]) := by
  rw [readUnits]
  · have hplain : ¬(c = '\\' ∨ c.toNat < 0x20) := by
      rintro (h | h)
      · exact hslash h
      · omega
    rw [if_neg hplain]
    cases readUnits rest <;> rfl
  · exact hquote
  · intro a b c d rest hu
    exact absurd hu hslash
  · intro letter rest hu
    exact absurd hu hslash

theorem readUnits_writtenChar (c : Char) (rest : List Char) :
    readUnits (writtenChar c ++ rest) = (readUnits rest).map (prepend (symbolUnits (.char c))) := by
  unfold writtenChar
  split
  · next letter hletter => exact readUnits_shortEscape hletter rest
  · next hnone =>
    split
    · next hprint =>
      have hlow : ' '.toNat ≤ c.toNat := hprint.1
      have hhigh : c.toNat ≤ '~'.toNat := hprint.2
      have hspace : ' '.toNat = 0x20 := rfl
      have htilde : '~'.toNat = 0x7e := rfl
      have hquote : c ≠ '"' := by
        rintro rfl
        cases hnone
      have hslash : c ≠ '\\' := by
        rintro rfl
        cases hnone
      have hunits : symbolUnits (.char c) = [c.toNat] :=
        symbolUnits_of_lt (s := .char c) (show c.toNat < 0x10000 by omega)
      rw [hunits]
      exact readUnits_self hquote hslash (by omega) rest
    · exact readUnits_charEscape c rest

theorem readUnits_writtenSymbol (s : Symbol) (rest : List Char) :
    readUnits (writtenSymbol s ++ rest) = (readUnits rest).map (prepend (symbolUnits s)) := by
  cases s with
  | char c => exact readUnits_writtenChar c rest
  | half unit h =>
    have hunit : unit < 0x10000 := Nat.lt_trans (lt_of_isHalf h).2 (by decide)
    have hunits : symbolUnits (.half unit h) = [unit] := if_pos hunit
    rw [hunits]
    exact readUnits_unitEscape hunit rest

theorem readUnits_written (row : List Symbol) (rest : List Char) :
    readUnits (row.flatMap writtenSymbol ++ '"' :: rest) = some (units row, rest) := by
  induction row with
  | nil => rfl
  | cons s row ih =>
    rw [List.flatMap_cons, List.append_assoc, readUnits_writtenSymbol, ih]
    rfl

/-! ## Joining units -/

/-- A unit that does not begin a pair is a symbol of its own. -/
theorem joinUnits_cons {unit : Nat} {rest : List Nat}
    (h : (isHighHalf unit && rest.head?.any isLowHalf) = false) :
    joinUnits (unit :: rest) = unitCode unit ++ joinUnits rest := by
  cases rest with
  | nil => exact (List.append_nil _).symm
  | cons next rest =>
    rw [List.head?_cons, Option.any_some] at h
    rw [joinUnits, h]
    rfl

theorem joinUnits_pair {high low : Nat} (hhigh : isHighHalf high = true)
    (hlow : isLowHalf low = true) (rest : List Nat) :
    joinUnits (high :: low :: rest) =
      (Symbol.char (Char.ofNat (pairValue high low))).code ++ joinUnits rest := by
  rw [joinUnits, hhigh, hlow]
  rfl

/-- The units of a symbol outside the basic plane make up a pair, which is the symbol. -/
theorem exists_symbolUnits_eq_pair {s : Symbol} (h : 0x10000 ≤ s.codePoint) :
    s.half? = none ∧ ∃ high low, symbolUnits s = [high, low] ∧ isHighHalf high = true ∧
      isLowHalf low = true ∧ Symbol.char (Char.ofNat (pairValue high low)) = s := by
  cases s with
  | char c =>
    have hpair : 0x10000 ≤ c.toNat := h
    have hlimit : c.toNat < 0x110000 := (Symbol.char c).codePoint_lt
    refine ⟨rfl, 0xd800 + (c.toNat - 0x10000) / 0x400, 0xdc00 + (c.toNat - 0x10000) % 0x400,
      if_neg (Nat.not_lt.2 h), ?_, ?_, ?_⟩
    · simp only [isHighHalf, Bool.and_eq_true, decide_eq_true_eq]
      omega
    · simp only [isLowHalf, Bool.and_eq_true, decide_eq_true_eq]
      omega
    · have hvalue : pairValue (0xd800 + (c.toNat - 0x10000) / 0x400)
          (0xdc00 + (c.toNat - 0x10000) % 0x400) = c.toNat := by
        unfold pairValue
        omega
      rw [hvalue, Char.ofNat_toNat]
  | half unit hunit =>
    have hrange := lt_of_isHalf hunit
    have hpair : 0x10000 ≤ unit := h
    omega

/-- A character outside the basic plane is written as the two halves of a pair. -/
theorem exists_writtenSymbol_eq_pair {c : Char} (h : 0x10000 ≤ c.toNat) :
    ∃ high low, writtenSymbol (.char c) = unitEscape high ++ unitEscape low ∧
      isHighHalf high = true ∧ isLowHalf low = true ∧ Char.ofNat (pairValue high low) = c := by
  obtain ⟨-, high, low, hunits, hhigh, hlow, hchar⟩ :=
    exists_symbolUnits_eq_pair (s := .char c) h
  obtain ⟨hfirst, hrest⟩ := List.cons.inj ((if_neg (Nat.not_lt.2 h)).symm.trans hunits)
  obtain ⟨hsecond, -⟩ := List.cons.inj hrest
  have hshort : shortEscape? c = none := by
    cases hletter : shortEscape? c with
    | none => rfl
    | some letter =>
      have hall : ∀ pair ∈ shortEscapes, pair.1.toNat < 0x10000 := by decide
      exact absurd (hall _ (mem_shortEscapes hletter)) (Nat.not_lt.2 h)
  have hprint : ¬(' ' ≤ c ∧ c ≤ '~') := by
    rintro ⟨-, hhigh⟩
    have hhigh : c.toNat ≤ '~'.toNat := hhigh
    have htilde : '~'.toNat = 0x7e := rfl
    omega
  refine ⟨high, low, ?_, hhigh, hlow, Symbol.char.inj hchar⟩
  rw [writtenSymbol, writtenChar, hshort]
  dsimp only
  rw [if_neg hprint, charEscape, if_neg (Nat.not_lt.2 h), ← hfirst, ← hsecond]
  rfl

/-- The character U+10D800 is such a pair, and the half U+D800 is one escape. -/
example : writtenSymbol (.char (Char.ofNat 0x10d800)) = "\\udbf6\\udc00".toList ∧
    writtenSymbol (.ofUnit 0xd800) = "\\ud800".toList := by
  decide

theorem isLowHalf_of_isHighHalf {unit : Nat} (h : isHighHalf unit = true) :
    isLowHalf unit = false := by
  simp only [isHighHalf, Bool.and_eq_true, decide_eq_true_eq] at h
  simp only [isLowHalf, Bool.and_eq_false_iff, decide_eq_false_iff_not]
  omega

/-- Any other symbol is one unit, and is joined as it is kept. -/
theorem unitCode_codePoint {s : Symbol} (h : s.codePoint < 0x10000) :
    unitCode s.codePoint = s.code ∧ isHighHalf s.codePoint = s.half?.any isHighHalf ∧
      isLowHalf s.codePoint = s.half?.any isLowHalf := by
  cases s with
  | char c =>
    have hhalf := isHalf_toNat c
    have hkept : isReserved c = false :=
      isReserved_eq_false_of_lt (Nat.lt_trans h (by decide))
    have hcode : unitCode c.toNat = [c] := by
      rw [unitCode, hhalf, Char.ofNat_toNat]
      rfl
    unfold isHalf at hhalf
    rw [Bool.or_eq_false_iff] at hhalf
    exact ⟨hcode.trans (Symbol.code_of_isReserved_eq_false hkept).symm, hhalf.1, hhalf.2⟩
  | half unit hunit => exact ⟨if_pos hunit, rfl, rfl⟩

/-- The first unit of a row is a second half only if its first symbol is one. -/
theorem any_isLowHalf_head?_units (s : Symbol) (rest : List Symbol) :
    (units (s :: rest)).head?.any isLowHalf = s.half?.any isLowHalf := by
  unfold units
  rw [List.flatMap_cons]
  rcases Nat.lt_or_ge s.codePoint 0x10000 with hsingle | hpair
  · rw [symbolUnits_of_lt hsingle]
    exact (unitCode_codePoint hsingle).2.2
  · obtain ⟨hnone, high, low, hunits, hhigh, -⟩ := exists_symbolUnits_eq_pair hpair
    rw [hunits, hnone]
    exact isLowHalf_of_isHighHalf hhigh

/-- Joining the units of a text gives the text. -/
theorem joinUnits_units {row : List Symbol} (h : halvesApart row = true) :
    joinUnits (units row) = ofSymbols row := by
  induction row with
  | nil => rfl
  | cons s rest ih =>
    have hrest : halvesApart rest = true ∧
        (s.half?.any isHighHalf && (units rest).head?.any isLowHalf) = false := by
      cases rest with
      | nil => exact ⟨rfl, Bool.and_false _⟩
      | cons t more =>
        rw [halvesApart, Bool.and_eq_true, Bool.not_eq_true'] at h
        exact ⟨h.2, any_isLowHalf_head?_units t more ▸ h.1⟩
    have htail := ih hrest.1
    unfold units at htail hrest ⊢
    unfold ofSymbols at htail ⊢
    rw [List.flatMap_cons, List.flatMap_cons]
    rcases Nat.lt_or_ge s.codePoint 0x10000 with hsingle | hpair
    · obtain ⟨hcode, hhigh, -⟩ := unitCode_codePoint hsingle
      rw [symbolUnits_of_lt hsingle, List.singleton_append, joinUnits_cons (hhigh ▸ hrest.2),
        hcode, htail]
    · obtain ⟨-, high, low, hunits, hhigh, hlow, hchar⟩ := exists_symbolUnits_eq_pair hpair
      rw [hunits, List.cons_append, List.singleton_append, joinUnits_pair hhigh hlow, hchar, htail]

/-- A written text is read as the text it was written for. -/
theorem readText_written {text : String} (h : isPortable text.toList = true) (rest : List Char) :
    readText ((symbols text.toList).flatMap writtenSymbol ++ '"' :: rest) = some (text, rest) := by
  obtain ⟨hkept, happart⟩ := Bool.and_eq_true_iff.1 h
  rw [readText, readUnits_written]
  simp only [Option.map_some, joinUnits_units happart, of_decide_eq_true hkept,
    String.ofList_toList]

end Json

end Maquette
