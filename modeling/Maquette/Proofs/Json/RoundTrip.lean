import Maquette.Proofs.Json.Units
import Maquette.Proofs.Number.Numeral

/-!
# Reading what was written

A value that is written over several lines is read back as it was. What the written
form cannot tell apart is left out by `isPortable`: the numbers that have no digits,
several fields with one name, and halves of pairs that would meet.

The reader is followed through the text from one part of a value to the next. Behind
each part stands a text that the reader has to stop at, and the fuel it is given is at
least the length of what it has to read. Values, items and fields are proved together,
as they are written.
-/

namespace Maquette.Json

open Text (symbols)

mutual

/-- Writing the value loses nothing: its numbers are finite, the names in an object are
different, and no halves of a pair meet. -/
def isPortable : Json → Bool
  | null => true
  | bool _ => true
  | integer _ => true
  | number x => x.isFinite
  | string text => Text.isPortable text.toList
  | array items => arePortableItems items
  | object fields => decide (fields.map Prod.fst).Nodup && arePortableFields fields

def arePortableItems : List Json → Bool
  | [] => true
  | item :: rest => isPortable item && arePortableItems rest

def arePortableFields : List (String × Json) → Bool
  | [] => true
  | (name, value) :: rest =>
    Text.isPortable name.toList && (isPortable value && arePortableFields rest)

end

/-! ## White space -/

theorem skipSpace_cons {c : Char} {s : List Char} (h : isSpace c = false) :
    skipSpace (c :: s) = c :: s :=
  List.dropWhile_cons_of_neg (by simp [h])

theorem skipSpace_spaces (k : Nat) (s : List Char) :
    skipSpace (List.replicate k ' ' ++ s) = skipSpace s := by
  unfold skipSpace
  refine List.dropWhile_append_of_pos ?_
  intro c hc
  rw [List.eq_of_mem_replicate hc]
  rfl

theorem skipSpace_blank (s : List Char) : skipSpace (' ' :: s) = skipSpace s :=
  rfl

theorem skipSpace_newline (s : List Char) : skipSpace ('\n' :: s) = skipSpace s :=
  rfl

/-- The line that a bracket closes on. -/
def closing (level : Nat) (bracket : Char) (rest : List Char) : List Char :=
  '\n' :: (List.replicate (2 * level) ' ' ++ bracket :: rest)

theorem skipSpace_closing (level : Nat) {bracket : Char} (h : isSpace bracket = false)
    (rest : List Char) : skipSpace (closing level bracket rest) = bracket :: rest := by
  rw [closing, skipSpace_newline, skipSpace_spaces, skipSpace_cons h]

/-! ## Values of one part -/

section Numbers

variable {c : Char} (hc : isDigit c = true ∨ c = '-')

include hc

theorem ne_of_isDigit_or_minus {d : Char} (hd : (isDigit d || d == '-') = false) : c ≠ d := by
  rintro rfl
  rw [Bool.or_eq_false_iff, beq_eq_false_iff_ne] at hd
  rcases hc with hdigit | hminus
  · rw [hd.1] at hdigit
    cases hdigit
  · exact hd.2 hminus

theorem skipWord?_eq_none {d : Char} (word s : List Char) (hd : (isDigit d || d == '-') = false) :
    skipWord? (d :: word) (c :: s) = none := by
  rw [skipWord?, if_neg (ne_of_isDigit_or_minus hc hd).symm]

theorem readWord_number (dialect : Dialect) (s : List Char) :
    readWord dialect (c :: s) = none := by
  have hnull : skipWord? "null".toList (c :: s) = none :=
    skipWord?_eq_none hc "ull".toList s (by decide)
  have htrue : skipWord? "true".toList (c :: s) = none :=
    skipWord?_eq_none hc "rue".toList s (by decide)
  have hfalse : skipWord? "false".toList (c :: s) = none :=
    skipWord?_eq_none hc "alse".toList s (by decide)
  have hnan : skipWord? "NaN".toList (c :: s) = none :=
    skipWord?_eq_none hc "aN".toList s (by decide)
  have hinfinity : skipWord? "Infinity".toList (c :: s) = none :=
    skipWord?_eq_none hc "nfinity".toList s (by decide)
  unfold readWord
  rw [hnull, htrue, hfalse, hnan, hinfinity]
  cases dialect <;> rfl

/-- What begins with a digit or a minus sign is a number. -/
theorem readValue_number (dialect : Dialect) (fuel : Nat) (limits : Limits) (s : List Char) :
    readValue dialect (fuel + 1) limits (c :: s) = readNumber dialect limits (c :: s) := by
  have hquote : c ≠ '"' := ne_of_isDigit_or_minus hc (by decide)
  have hbracket : c ≠ '[' := ne_of_isDigit_or_minus hc (by decide)
  have hbrace : c ≠ '\x7b' := ne_of_isDigit_or_minus hc (by decide)
  rw [readValue, readWord_number hc]
  · intro rest heq
    exact hquote (List.cons.inj heq).1
  · intro rest heq
    exact hbracket (List.cons.inj heq).1
  · intro rest heq
    exact hbrace (List.cons.inj heq).1

end Numbers

/-- The sign of a numeral is read in front of it. -/
theorem readNumber_signed (dialect : Dialect) (limits : Limits) (s : Bool) (n : Numeral)
    (rest : List Char) :
    readNumber dialect limits (Binary64.signText s ++ (n.text ++ rest)) =
      readUnsigned limits s (n.text ++ rest) := by
  obtain ⟨d, more, htext, hd⟩ := n.exists_text_eq_cons
  rw [htext]
  cases s with
  | false =>
    have hminus : d ≠ '-' := by
      rintro rfl
      exact absurd hd (by decide)
    unfold readNumber
    split
    · next heq => exact absurd (List.cons.inj heq).1 hminus
    · rfl
  | true =>
    have hword : skipWord? "Infinity".toList (d :: (more ++ rest)) = none :=
      skipWord?_eq_none (.inl hd) "nfinity".toList (more ++ rest) (by decide)
    have htext : Binary64.signText true ++ (d :: more ++ rest) = '-' :: d :: (more ++ rest) := rfl
    rw [htext, readNumber]
    · rfl
    · intro after hdialect heq
      rw [hword] at heq
      cases heq

theorem readValue_signed (dialect : Dialect) (fuel : Nat) (limits : Limits) (s : Bool) (n : Numeral)
    (rest : List Char) :
    readValue dialect (fuel + 1) limits (Binary64.signText s ++ (n.text ++ rest)) =
      readUnsigned limits s (n.text ++ rest) := by
  rw [← readNumber_signed dialect]
  obtain ⟨d, more, htext, hd⟩ := n.exists_text_eq_cons
  rw [htext]
  cases s with
  | false => exact readValue_number (.inl hd) dialect fuel limits (more ++ rest)
  | true => exact readValue_number (.inr rfl) dialect fuel limits (d :: more ++ rest)

theorem integerText_eq (k : Int) :
    ∃ n : Numeral, (integerText k).toList = Binary64.signText (decide (k < 0)) ++ n.text ∧
      n.text = decimalDigits k.natAbs := by
  refine ⟨⟨decimalDigits k.natAbs, [], none, isWhole_decimalDigits _, rfl, by simp⟩, ?_, ?_⟩
  · simp [integerText, Binary64.signText, Numeral.text, Numeral.fractionText, Numeral.exponentText]
  · simp [Numeral.text, Numeral.fractionText, Numeral.exponentText]

theorem readValue_integer (dialect : Dialect) (fuel : Nat) (k : Int) {rest : List Char}
    (h : Numeral.ends rest = true) :
    readValue dialect (fuel + 1) .none ((integerText k).toList ++ rest) =
      .ok (.integer k, rest) := by
  obtain ⟨n, htext, hdigits⟩ := integerText_eq k
  have hvalue : (if decide (k < 0) = true then -(k.natAbs : Int) else k.natAbs) = k := by
    simp only [decide_eq_true_eq]
    split <;> omega
  rw [htext, List.append_assoc, readValue_signed, hdigits,
    Numeral.readUnsigned_decimalDigits _ _ h, hvalue]

theorem readValue_finite (dialect : Dialect) (fuel : Nat) (s : Bool) (m : Magnitude)
    {rest : List Char} (h : Numeral.ends rest = true) :
    readValue dialect (fuel + 1) .none ((writtenNumber (.finite s m)).toList ++ rest) =
      .ok (.number (.finite s m), rest) := by
  obtain ⟨n, htext, hpointed, hvalue⟩ := Binary64.exists_text_eq s m
  have hwritten : writtenNumber (.finite s m) =
      String.ofList (Binary64.signText s ++ n.text) := htext
  rw [hwritten, String.toList_ofList, List.append_assoc, readValue_signed,
    n.readUnsigned_text .none s hpointed h, hvalue]

theorem readText_writtenString {text : String} (h : Text.isPortable text.toList = true)
    (rest : List Char) :
    ∃ body, (writtenString text).toList ++ rest = '"' :: body ∧
      readText body = some (text, rest) := by
  refine ⟨(symbols text.toList).flatMap writtenSymbol ++ '"' :: rest, ?_, readText_written h rest⟩
  simp [writtenString]

theorem readValue_string (dialect : Dialect) (fuel : Nat) (limits : Limits) {text : String}
    (h : Text.isPortable text.toList = true) (rest : List Char) :
    readValue dialect (fuel + 1) limits ((writtenString text).toList ++ rest) =
      .ok (.string text, rest) := by
  obtain ⟨body, hbody, hread⟩ := readText_writtenString h rest
  rw [hbody, readValue, hread]
  rfl

/-! ## Layout -/

theorem toList_levelIndent (level : Nat) :
    (levelIndent level).toList = List.replicate (2 * level) ' ' :=
  String.toList_ofList

theorem prettyAt_array (level : Nat) (item : Json) (items : List Json) (rest : List Char) :
    (prettyAt level (.array (item :: items))).toList ++ rest =
      '[' :: '\n' :: ((prettyItems (level + 1) (item :: items)).toList ++
        closing level ']' rest) := by
  simp [prettyAt, closing, toList_levelIndent]

theorem prettyAt_object (level : Nat) (field : String × Json) (fields : List (String × Json))
    (rest : List Char) :
    (prettyAt level (.object (field :: fields))).toList ++ rest =
      '\x7b' :: '\n' :: ((prettyFields (level + 1) (field :: fields)).toList ++
        closing level '\x7d' rest) := by
  simp [prettyAt, closing, toList_levelIndent]

theorem prettyItems_cons (level : Nat) (item next : Json) (items : List Json) :
    (prettyItems level (item :: next :: items)).toList =
      List.replicate (2 * level) ' ' ++ ((prettyAt level item).toList ++
        ',' :: '\n' :: (prettyItems level (next :: items)).toList) := by
  simp [prettyItems, toList_levelIndent]

theorem prettyItems_singleton (level : Nat) (item : Json) :
    (prettyItems level [item]).toList =
      List.replicate (2 * level) ' ' ++ (prettyAt level item).toList := by
  simp [prettyItems, toList_levelIndent]

theorem prettyFields_cons (level : Nat) (name : String) (value : Json) (next : String × Json)
    (fields : List (String × Json)) :
    (prettyFields level ((name, value) :: next :: fields)).toList =
      List.replicate (2 * level) ' ' ++ ((writtenString name).toList ++
        ':' :: ' ' :: ((prettyAt level value).toList ++
          ',' :: '\n' :: (prettyFields level (next :: fields)).toList)) := by
  simp [prettyFields, toList_levelIndent]

theorem prettyFields_singleton (level : Nat) (name : String) (value : Json) :
    (prettyFields level [(name, value)]).toList =
      List.replicate (2 * level) ' ' ++ ((writtenString name).toList ++
        ':' :: ' ' :: (prettyAt level value).toList) := by
  simp [prettyFields, toList_levelIndent]

/-- A text in front of which white space ends, and which does not close an array. -/
def StartsValue (s : List Char) : Prop :=
  ∃ c rest, s = c :: rest ∧ isSpace c = false ∧ c ≠ ']'

theorem startsValue_signed (s : Bool) (n : Numeral) :
    StartsValue (Binary64.signText s ++ n.text) := by
  cases s with
  | true => exact ⟨'-', n.text, rfl, rfl, by decide⟩
  | false =>
    obtain ⟨d, more, htext, hd⟩ := n.exists_text_eq_cons
    have hne (c : Char) (hc : (isDigit c || c == '-') = false) : d ≠ c :=
      ne_of_isDigit_or_minus (.inl hd) hc
    refine ⟨d, more, htext, ?_, hne ']' (by decide)⟩
    simp [isSpace, hne ' ' (by decide), hne '\t' (by decide), hne '\n' (by decide),
      hne '\r' (by decide)]

/-- A written value begins with what is neither white space nor a closing bracket. -/
theorem startsValue_prettyAt (level : Nat) {v : Json} (h : v.isPortable = true) :
    StartsValue (prettyAt level v).toList := by
  cases v with
  | null =>
    rw [prettyAt]
    exact ⟨'n', "ull".toList, rfl, rfl, by decide⟩
  | bool value =>
    rw [prettyAt]
    cases value with
    | true => exact ⟨'t', "rue".toList, rfl, rfl, by decide⟩
    | false => exact ⟨'f', "alse".toList, rfl, rfl, by decide⟩
  | integer k =>
    obtain ⟨n, htext, -⟩ := integerText_eq k
    rw [prettyAt, htext]
    exact startsValue_signed _ n
  | number x =>
    cases x with
    | finite s m =>
      obtain ⟨n, htext, -⟩ := Binary64.exists_text_eq s m
      have hwritten : writtenNumber (.finite s m) =
          String.ofList (Binary64.signText s ++ n.text) := htext
      rw [prettyAt, hwritten, String.toList_ofList]
      exact startsValue_signed s n
    | infinite s => cases h
    | nan => cases h
  | string text =>
    refine ⟨'"', (symbols text.toList).flatMap writtenSymbol ++ ['"'], ?_, rfl, by decide⟩
    simp [prettyAt, writtenString]
  | array items =>
    cases items with
    | nil =>
      rw [prettyAt]
      exact ⟨'[', [']'], rfl, rfl, by decide⟩
    | cons item items =>
      have htext := prettyAt_array level item items []
      rw [List.append_nil] at htext
      exact ⟨'[', _, htext, rfl, by decide⟩
  | object fields =>
    cases fields with
    | nil =>
      rw [prettyAt]
      exact ⟨'\x7b', ['\x7d'], rfl, rfl, by decide⟩
    | cons field fields =>
      have htext := prettyAt_object level field fields []
      rw [List.append_nil] at htext
      exact ⟨'\x7b', _, htext, rfl, by decide⟩

theorem StartsValue.skipSpace {s : List Char} (h : StartsValue s) (rest : List Char) :
    skipSpace (s ++ rest) = s ++ rest := by
  obtain ⟨c, more, rfl, hc, -⟩ := h
  exact skipSpace_cons hc

theorem StartsValue.length_pos {s : List Char} (h : StartsValue s) : 0 < s.length := by
  obtain ⟨c, more, rfl, -⟩ := h
  exact Nat.succ_pos _

theorem set_of_not_mem {fields : Fields} {name : String} (h : name ∉ fields.map Prod.fst)
    (value : Json) : fields.set name value = fields ++ [(name, value)] := by
  induction fields with
  | nil => rfl
  | cons field fields ih =>
    rw [List.map_cons, List.mem_cons, not_or] at h
    rw [Fields.set, if_neg (Ne.symm h.1), ih h.2, List.cons_append]

theorem foldl_set_eq {front fields : Fields}
    (h : ((front ++ fields).map Prod.fst).Nodup) :
    fields.foldl (fun fields pair => fields.set pair.1 pair.2) front = front ++ fields := by
  induction fields generalizing front with
  | nil => rw [List.foldl_nil, List.append_nil]
  | cons field fields ih =>
    have hsplit : front ++ field :: fields = front ++ [field] ++ fields := by
      rw [List.append_assoc, List.singleton_append]
    have hnot : field.1 ∉ front.map Prod.fst := by
      intro hmem
      rw [List.map_append, List.map_cons] at h
      exact (List.nodup_append.1 h).2.2 _ hmem _ List.mem_cons_self rfl
    rw [hsplit] at h ⊢
    rw [List.foldl_cons, set_of_not_mem hnot, ih h]

/-- Fields with different names are taken as they come. -/
theorem ofPairs_eq {fields : Fields} (h : (fields.map Prod.fst).Nodup) :
    Fields.ofPairs fields = fields :=
  foldl_set_eq h

/-! ## Values of several parts -/

section Parts

variable {dialect : Dialect} {fuel : Nat} {s after more rest : List Char}

/-- An array is what its items are, unless it is closed at once. -/
theorem readValue_array {items : List Json} (hstart : StartsValue (skipSpace s))
    (hread : readItems dialect fuel .none (skipSpace s) = .ok (items, rest)) :
    readValue dialect (fuel + 1) .none ('[' :: s) = .ok (.array items, rest) := by
  obtain ⟨c, more, htext, -, hc⟩ := hstart
  rw [readValue, Limits.inside]
  simp only [Limits.none, bind, Except.bind] at hread ⊢
  rw [htext] at hread ⊢
  split
  · next heq => exact absurd (List.cons.inj heq).1 hc
  · rw [hread]
    rfl

theorem readItems_last {item : Json}
    (hvalue : readValue dialect fuel .none s = .ok (item, after))
    (hafter : skipSpace after = ']' :: rest) :
    readItems dialect (fuel + 1) .none s = .ok ([item], rest) := by
  rw [readItems, hvalue]
  simp only [bind, Except.bind, hafter]
  rfl

theorem readItems_next {item : Json} {items : List Json}
    (hvalue : readValue dialect fuel .none s = .ok (item, after))
    (hafter : skipSpace after = ',' :: more)
    (hmore : readItems dialect fuel .none (skipSpace more) = .ok (items, rest)) :
    readItems dialect (fuel + 1) .none s = .ok (item :: items, rest) := by
  rw [readItems, hvalue]
  simp only [bind, Except.bind, hafter, hmore]
  rfl

/-- An object is what its fields are, unless it is closed at once. -/
theorem readValue_object {fields : List (String × Json)} (hstart : skipSpace s = '"' :: more)
    (hread : readFields dialect fuel .none ('"' :: more) = .ok (fields, rest)) :
    readValue dialect (fuel + 1) .none ('\x7b' :: s) =
      .ok (.object (Fields.ofPairs fields), rest) := by
  rw [readValue, Limits.inside]
  simp only [Limits.none, bind, Except.bind] at hread ⊢
  rw [hstart]
  split
  · next heq => exact absurd (List.cons.inj heq).1 (by decide)
  · rw [hread]
    rfl

variable {name : String} {value : Json} {afterName afterColon : List Char}

theorem readFields_last (hname : readText s = some (name, ':' :: afterColon))
    (hvalue : readValue dialect fuel .none (skipSpace afterColon) = .ok (value, after))
    (hafter : skipSpace after = '\x7d' :: rest) :
    readFields dialect (fuel + 1) .none ('"' :: s) = .ok ([(name, value)], rest) := by
  have hcolon : skipSpace (':' :: afterColon) = ':' :: afterColon := rfl
  rw [readFields, hname]
  simp only [bind, Except.bind, present, hcolon, hvalue, hafter]
  rfl

theorem readFields_next {fields : List (String × Json)}
    (hname : readText s = some (name, ':' :: afterColon))
    (hvalue : readValue dialect fuel .none (skipSpace afterColon) = .ok (value, after))
    (hafter : skipSpace after = ',' :: more)
    (hmore : readFields dialect fuel .none (skipSpace more) = .ok (fields, rest)) :
    readFields dialect (fuel + 1) .none ('"' :: s) = .ok ((name, value) :: fields, rest) := by
  have hcolon : skipSpace (':' :: afterColon) = ':' :: afterColon := rfl
  rw [readFields, hname]
  simp only [bind, Except.bind, present, hcolon, hvalue, hafter, hmore]
  rfl

end Parts

/-- The first item of an array is the first thing after the line that it opens on. -/
theorem exists_prettyItems_eq (level : Nat) (item : Json) (items : List Json) (tail : List Char) :
    ∃ more, (prettyItems level (item :: items)).toList ++ tail =
      List.replicate (2 * level) ' ' ++ ((prettyAt level item).toList ++ more) := by
  cases items with
  | nil => exact ⟨tail, by rw [prettyItems_singleton, List.append_assoc]⟩
  | cons next items =>
    refine ⟨',' :: '\n' :: (prettyItems level (next :: items)).toList ++ tail, ?_⟩
    rw [prettyItems_cons, List.append_assoc, List.append_assoc]

theorem startsValue_prettyItems (level : Nat) {item : Json} (h : item.isPortable = true)
    (items : List Json) (tail : List Char) :
    StartsValue (skipSpace ((prettyItems level (item :: items)).toList ++ tail)) := by
  obtain ⟨more, htext⟩ := exists_prettyItems_eq level item items tail
  have hstart := startsValue_prettyAt level h
  rw [htext, skipSpace_spaces, hstart.skipSpace]
  obtain ⟨c, rest, hcons, hspace, hbracket⟩ := hstart
  rw [hcons]
  exact ⟨c, rest ++ more, rfl, hspace, hbracket⟩

/-- The first name of an object is the first thing after the line that it opens on. -/
theorem exists_prettyFields_eq (level : Nat) (field : String × Json)
    (fields : List (String × Json)) (tail : List Char) :
    ∃ more, skipSpace ((prettyFields level (field :: fields)).toList ++ tail) = '"' :: more := by
  obtain ⟨name, value⟩ := field
  have hquote (rest : List Char) : ∃ more, skipSpace ((writtenString name).toList ++ rest) =
      '"' :: more := by
    refine ⟨(symbols name.toList).flatMap writtenSymbol ++ '"' :: rest, ?_⟩
    simp [writtenString, skipSpace_cons (c := '"') rfl]
  cases fields with
  | nil =>
    rw [prettyFields_singleton, List.append_assoc, skipSpace_spaces, List.append_assoc]
    exact hquote _
  | cons next fields =>
    rw [prettyFields_cons, List.append_assoc, skipSpace_spaces, List.append_assoc]
    exact hquote _

/-! ## The round trip -/

mutual

/-- A portable value is read back in front of any text that does not go on with a
number. -/
theorem readValue_prettyAt (dialect : Dialect) :
    ∀ (fuel : Nat) (v : Json) (level : Nat) (rest : List Char), v.isPortable = true →
      (prettyAt level v).toList.length ≤ fuel → Numeral.ends rest = true →
      readValue dialect fuel .none ((prettyAt level v).toList ++ rest) = .ok (v, rest)
  | 0, v, level, rest, hv, hfuel, hrest =>
    absurd (startsValue_prettyAt level hv).length_pos (by omega)
  | fuel + 1, v, level, rest, hv, hfuel, hrest => by
    cases v with
    | null =>
      rw [prettyAt]
      rfl
    | bool value =>
      rw [prettyAt]
      cases value <;> rfl
    | integer k =>
      rw [prettyAt]
      exact readValue_integer dialect fuel k hrest
    | number x =>
      rw [prettyAt]
      cases x with
      | finite s m => exact readValue_finite dialect fuel s m hrest
      | infinite s => cases hv
      | nan => cases hv
    | string text =>
      rw [prettyAt]
      exact readValue_string dialect fuel .none hv rest
    | array items =>
      cases items with
      | nil =>
        rw [prettyAt]
        rfl
      | cons item items =>
        have htext := prettyAt_array level item items
        have hlength := congrArg List.length (htext [])
        simp only [List.append_nil, List.length_cons, List.length_append] at hlength
        have hitem : item.isPortable = true := (Bool.and_eq_true_iff.1 hv).1
        rw [htext]
        refine readValue_array (startsValue_prettyItems (level + 1) hitem items _) ?_
        exact readItems_prettyItems dialect fuel item items (level + 1) level rest hv (by omega)
    | object fields =>
      cases fields with
      | nil =>
        rw [prettyAt]
        rfl
      | cons field fields =>
        have htext := prettyAt_object level field fields
        have hlength := congrArg List.length (htext [])
        simp only [List.append_nil, List.length_cons, List.length_append] at hlength
        obtain ⟨hnames, hfields⟩ := Bool.and_eq_true_iff.1 hv
        obtain ⟨more, hmore⟩ := exists_prettyFields_eq (level + 1) field fields
          (closing level '\x7d' rest)
        have hread := readFields_prettyFields dialect fuel field fields (level + 1) level rest
          hfields (by omega)
        rw [hmore] at hread
        have hobject := readValue_object (s := '\n' :: _) hmore hread
        rw [htext, hobject, ofPairs_eq (of_decide_eq_true hnames)]

/-- The items of an array, after the line that the array opens on. -/
theorem readItems_prettyItems (dialect : Dialect) :
    ∀ (fuel : Nat) (item : Json) (items : List Json) (level outer : Nat) (rest : List Char),
      arePortableItems (item :: items) = true →
      (prettyItems level (item :: items)).toList.length < fuel →
      readItems dialect fuel .none (skipSpace ((prettyItems level (item :: items)).toList ++
        closing outer ']' rest)) = .ok (item :: items, rest)
  | 0, _, _, _, _, _, _, hfuel => absurd hfuel (Nat.not_lt_zero _)
  | fuel + 1, item, [], level, outer, rest, hitems, hfuel => by
    have hitem : item.isPortable = true := (Bool.and_eq_true_iff.1 hitems).1
    have htext := prettyItems_singleton level item
    have hlength := congrArg List.length htext
    rw [List.length_append, List.length_replicate] at hlength
    rw [htext, List.append_assoc, skipSpace_spaces, (startsValue_prettyAt level hitem).skipSpace]
    refine readItems_last ?_ (skipSpace_closing outer rfl rest)
    exact readValue_prettyAt dialect fuel item level _ hitem (by omega) rfl
  | fuel + 1, item, next :: items, level, outer, rest, hitems, hfuel => by
    obtain ⟨hitem, hnext⟩ := Bool.and_eq_true_iff.1 hitems
    have htext := prettyItems_cons level item next items
    have hlength := congrArg List.length htext
    simp only [List.length_append, List.length_replicate, List.length_cons] at hlength
    rw [htext, List.append_assoc, skipSpace_spaces, List.append_assoc,
      (startsValue_prettyAt level hitem).skipSpace]
    refine readItems_next (readValue_prettyAt dialect fuel item level _ hitem (by omega) rfl)
      (skipSpace_cons rfl) ?_
    exact readItems_prettyItems dialect fuel next items level outer rest hnext (by omega)

/-- The fields of an object, after the line that the object opens on. -/
theorem readFields_prettyFields (dialect : Dialect) :
    ∀ (fuel : Nat) (field : String × Json) (fields : List (String × Json)) (level outer : Nat)
      (rest : List Char), arePortableFields (field :: fields) = true →
      (prettyFields level (field :: fields)).toList.length < fuel →
      readFields dialect fuel .none (skipSpace ((prettyFields level (field :: fields)).toList ++
        closing outer '\x7d' rest)) = .ok (field :: fields, rest)
  | 0, _, _, _, _, _, _, hfuel => absurd hfuel (Nat.not_lt_zero _)
  | fuel + 1, (name, value), [], level, outer, rest, hfields, hfuel => by
    obtain ⟨hname, hfields⟩ := Bool.and_eq_true_iff.1 hfields
    have hvalue : value.isPortable = true := (Bool.and_eq_true_iff.1 hfields).1
    have htext := prettyFields_singleton level name value
    have hlength := congrArg List.length htext
    simp only [List.length_append, List.length_replicate, List.length_cons] at hlength
    obtain ⟨body, hbody, hread⟩ := readText_writtenString hname
      (':' :: ' ' :: ((prettyAt level value).toList ++ closing outer '\x7d' rest))
    rw [htext, List.append_assoc, skipSpace_spaces, List.append_assoc]
    simp only [List.cons_append]
    rw [hbody, skipSpace_cons rfl]
    refine readFields_last hread ?_ (skipSpace_closing outer rfl rest)
    rw [skipSpace_blank, (startsValue_prettyAt level hvalue).skipSpace]
    exact readValue_prettyAt dialect fuel value level _ hvalue (by omega) rfl
  | fuel + 1, (name, value), next :: fields, level, outer, rest, hfields, hfuel => by
    obtain ⟨hname, hfields⟩ := Bool.and_eq_true_iff.1 hfields
    obtain ⟨hvalue, hnext⟩ := Bool.and_eq_true_iff.1 hfields
    have htext := prettyFields_cons level name value next fields
    have hlength := congrArg List.length htext
    simp only [List.length_append, List.length_replicate, List.length_cons] at hlength
    obtain ⟨body, hbody, hread⟩ := readText_writtenString hname
      (':' :: ' ' :: ((prettyAt level value).toList ++ ',' :: '\n' ::
        ((prettyFields level (next :: fields)).toList ++ closing outer '\x7d' rest)))
    rw [htext, List.append_assoc, skipSpace_spaces, List.append_assoc]
    simp only [List.cons_append, List.append_assoc]
    rw [hbody, skipSpace_cons rfl]
    have hfirst := readValue_prettyAt dialect fuel value level (',' :: '\n' ::
      ((prettyFields level (next :: fields)).toList ++ closing outer '\x7d' rest))
      hvalue (by omega) rfl
    rw [← (startsValue_prettyAt level hvalue).skipSpace] at hfirst
    refine readFields_next hread hfirst (skipSpace_cons rfl) ?_
    exact readFields_prettyFields dialect fuel next fields level outer rest hnext
      (by omega)

end

/-- A portable value is what its written form is read as. -/
theorem read_pretty (dialect : Dialect) {v : Json} (h : v.isPortable = true) :
    read dialect v.pretty = some v := by
  have hskip := (startsValue_prettyAt 0 h).skipSpace []
  rw [List.append_nil] at hskip
  have hread := readValue_prettyAt dialect (2 * (prettyAt 0 v).toList.length + 1) v 0 [] h
    (by omega) rfl
  rw [List.append_nil] at hread
  unfold read readWithin pretty
  simp only [hskip, hread, bind, Except.bind]
  rfl

end Maquette.Json
