import Maquette.Proofs.Color.Name

/-!
# The channels of the colours

The code of a colour has two capital digits for each channel, the opacity first. They are
the digits that the colour was written with, in whatever case and with whatever white
space around them, each one twice if there is a single digit for each channel.
-/

namespace Maquette

namespace Color

open Text

variable {w before after : List Char}

/-- The code of a colour with these hexadecimal digits. -/
def literal (digits : List Char) : String :=
  "Color(0x" ++ String.ofList (digits.map Char.toUpper) ++ ")"

theorem channelText_channel {c d : Char} {m n : Nat} (hc : hexValue? c = some m)
    (hd : hexValue? d = some n) : channelText (channel m n) = [c.toUpper, d.toUpper] := by
  have hall : ∀ m < 16, ∀ n < 16, channelText (channel m n) =
      [(Nat.digitChar m).toUpper, (Nat.digitChar n).toUpper] := by decide +kernel
  rw [hall m (hexValue?_lt hc) n (hexValue?_lt hd), toUpper_eq_digitChar hc,
    toUpper_eq_digitChar hd]

theorem code_argb {a a' r r' g g' b b' : Char} {va va' vr vr' vg vg' vb vb' : Nat}
    (ha : hexValue? a = some va) (ha' : hexValue? a' = some va')
    (hr : hexValue? r = some vr) (hr' : hexValue? r' = some vr')
    (hg : hexValue? g = some vg) (hg' : hexValue? g' = some vg')
    (hb : hexValue? b = some vb) (hb' : hexValue? b' = some vb') :
    (argb (channel va va') (channel vr vr') (channel vg vg') (channel vb vb')).code =
      literal [a, a', r, r', g, g', b, b'] := by
  rw [code, channelText_channel ha ha', channelText_channel hr hr', channelText_channel hg hg',
    channelText_channel hb hb']
  rfl

theorem exists_digits_code (a r g b : UInt8) :
    ∃ digits : List Char, digits.length = 8 ∧ (∀ c ∈ digits, c ∈ "0123456789ABCDEF".toList) ∧
      (argb a r g b).code = "Color(0x" ++ String.ofList digits ++ ")" := by
  have hall : ∀ n < 256, ((hex 2 n).map Char.toUpper).length = 2 ∧
      ((hex 2 n).map Char.toUpper).all "0123456789ABCDEF".toList.contains = true := by
    decide +kernel
  have hchannel (c : UInt8) : (channelText c).length = 2 ∧
      ∀ d ∈ channelText c, d ∈ "0123456789ABCDEF".toList := by
    refine ⟨(hall c.toNat c.toNat_lt).1, fun d hd => ?_⟩
    exact List.contains_iff_mem.1 (List.all_eq_true.1 (hall c.toNat c.toNat_lt).2 d hd)
  refine ⟨channelText a ++ channelText r ++ channelText g ++ channelText b, ?_, ?_, rfl⟩
  · simp only [List.length_append, (hchannel _).1]
  · intro c hc
    simp only [List.mem_append, or_assoc] at hc
    rcases hc with hc | hc | hc | hc
    all_goals exact (hchannel _).2 c hc

/-! ## Case and white space -/

theorem ofHex_map {f : Char → Char} (hf : ∀ c, hexValue? (f c) = hexValue? c) (w : List Char) :
    ofHex (w.map f) = ofHex w := by
  rw [ofHex, mapM_hexValue?_map hf, ofHex]

theorem ofText_around (hbefore : before.all isBlank = true) (hw : w.all isHexDigit = true)
    (hafter : after.all isBlank = true) :
    ofText (before ++ ('#' :: w ++ after)) = ofHex w := by
  have hcore : ∀ c ∈ '#' :: w, isBlank c = false := by
    intro c hc
    rcases List.mem_cons.1 hc with rfl | hmem
    · decide
    · exact isBlank_of_isHexDigit (List.all_eq_true.1 hw c hmem)
  have htrim : trim (before ++ ('#' :: w ++ after)) = '#' :: w :=
    dropWhile_around hbefore hcore (List.cons_ne_nil _ _) hafter
  have hdrop := dropWhile_signs_append hw 0
  rw [List.replicate_zero, List.nil_append] at hdrop
  rw [ofText_of_head htrim, hdrop]

/-- The text of a colour with white space around it. -/
def spaced (before w after : List Char) : List Char :=
  before ++ ('#' :: w ++ after)

theorem ofText_map_spaced {f : Char → Char} (hvalue : ∀ c, hexValue? (f c) = hexValue? c)
    (hsign : f '#' = '#') (hblank : ∀ c, isBlank c = true → f c = c)
    (hbefore : before.all isBlank = true) (hw : w.all isHexDigit = true)
    (hafter : after.all isBlank = true) :
    ofText ((spaced before w after).map f) = ofText (spaced before w after) := by
  have hself {u : List Char} (hu : u.all isBlank = true) : u.map f = u :=
    (List.map_congr_left fun c hc => hblank c (List.all_eq_true.1 hu c hc)).trans (List.map_id u)
  have hmap : (spaced before w after).map f = spaced before (w.map f) after := by
    simp [spaced, hself hbefore, hself hafter, hsign]
  rw [hmap, spaced, spaced, ofText_around hbefore (by rwa [all_isHexDigit_map hvalue]) hafter,
    ofText_around hbefore hw hafter, ofHex_map hvalue]

theorem lower_spaced (hbefore : before.all isBlank = true) (hw : w.all isHexDigit = true)
    (hafter : after.all isBlank = true) :
    lower (spaced before w after) = (spaced before w after).map Char.toLower := by
  refine lowerAfter_eq_map [] fun c hc => ?_
  rw [List.all_eq_true] at hbefore hw hafter
  simp only [spaced, List.mem_append, List.mem_cons] at hc
  rcases hc with hc | (rfl | hc) | hc
  · exact .inr (hbefore c hc)
  · exact .inl (by decide)
  · exact .inl (lt_of_isHexDigit (hw c hc))
  · exact .inr (hafter c hc)

/-- The colour of a value that is a text of these characters. -/
def ofChars (s : List Char) : Color :=
  ofValue (.string (String.ofList s))

theorem ofChars_eq_ofText (s : List Char) : ofChars s = ofText s := by
  rw [ofChars, ofValue_string, String.toList_ofList]

theorem ofChars_spaced (hbefore : before.all isBlank = true) (hw : w.all isHexDigit = true)
    (hafter : after.all isBlank = true) : ofChars (spaced before w after) = ofHex w := by
  rw [ofChars_eq_ofText, spaced, ofText_around hbefore hw hafter]

theorem code_ofHex_six {r r' g g' b b' : Char} (h : [r, r', g, g', b, b'].all isHexDigit = true) :
    (ofHex [r, r', g, g', b, b']).code = literal ['F', 'F', r, r', g, g', b, b'] := by
  simp only [List.all_cons, List.all_nil, isHexDigit, Bool.and_eq_true,
    Option.isSome_iff_exists] at h
  obtain ⟨⟨_, hr⟩, ⟨_, hr'⟩, ⟨_, hg⟩, ⟨_, hg'⟩, ⟨_, hb⟩, ⟨_, hb'⟩, -⟩ := h
  have hopaque : hexValue? 'F' = some 15 := rfl
  rw [← code_argb hopaque hopaque hr hr' hg hg' hb hb', ofHex]
  simp only [List.mapM_cons, hr, hr', hg, hg', hb, hb']
  rfl

theorem code_ofHex_eight {r r' g g' b b' a a' : Char}
    (h : [r, r', g, g', b, b', a, a'].all isHexDigit = true) :
    (ofHex [r, r', g, g', b, b', a, a']).code = literal [a, a', r, r', g, g', b, b'] := by
  simp only [List.all_cons, List.all_nil, isHexDigit, Bool.and_eq_true,
    Option.isSome_iff_exists] at h
  obtain ⟨⟨_, hr⟩, ⟨_, hr'⟩, ⟨_, hg⟩, ⟨_, hg'⟩, ⟨_, hb⟩, ⟨_, hb'⟩, ⟨_, ha⟩, ⟨_, ha'⟩, -⟩ := h
  rw [← code_argb ha ha' hr hr' hg hg' hb hb', ofHex]
  simp only [List.mapM_cons, hr, hr', hg, hg', hb, hb', ha, ha']
  rfl

/-- A single digit counts twice. -/
theorem ofHex_three {r g b : Char} (h : [r, g, b].all isHexDigit = true) :
    ofHex [r, g, b] = ofHex [r, r, g, g, b, b] := by
  simp only [List.all_cons, List.all_nil, isHexDigit, Bool.and_eq_true,
    Option.isSome_iff_exists] at h
  obtain ⟨⟨_, hr⟩, ⟨_, hg⟩, ⟨_, hb⟩, -⟩ := h
  rw [ofHex, ofHex]
  simp only [List.mapM_cons, hr, hg, hb]
  rfl

/-- Every value has a colour that code can name, and hexadecimal digits give the channels. -/
theorem code_channels :
    (∀ value, (ofValue value).code = "Colors.transparent" ∨ (ofValue value).code = "Colors.black" ∨
      ∃ digits : List Char, digits.length = 8 ∧ (∀ c ∈ digits, c ∈ "0123456789ABCDEF".toList) ∧
        (ofValue value).code = "Color(0x" ++ String.ofList digits ++ ")") ∧
    ∀ before after : List Char, before.all isBlank = true → after.all isBlank = true →
      (∀ r g b, [r, g, b].all isHexDigit = true →
        (ofChars (spaced before [r, g, b] after)).code = literal ['F', 'F', r, r, g, g, b, b] ∧
        ofChars (spaced before [r, g, b] after) =
          ofChars (spaced before [r, r, g, g, b, b] after)) ∧
      (∀ r r' g g' b b', [r, r', g, g', b, b'].all isHexDigit = true →
        (ofChars (spaced before [r, r', g, g', b, b'] after)).code =
          literal ['F', 'F', r, r', g, g', b, b']) ∧
      (∀ r r' g g' b b' a a', [r, r', g, g', b, b', a, a'].all isHexDigit = true →
        (ofChars (spaced before [r, r', g, g', b, b', a, a'] after)).code =
          literal [a, a', r, r', g, g', b, b']) ∧
      ∀ w, w.all isHexDigit = true →
        ofChars ((spaced before w after).map Char.toUpper) = ofChars (spaced before w after) ∧
        ofChars (lower (spaced before w after)) = ofChars (spaced before w after) ∧
        ∀ w', w'.map Char.toLower = w.map Char.toLower →
          ofChars (spaced before w' after) = ofChars (spaced before w after) := by
  refine ⟨fun value => ?_, fun before after hbefore hafter => ⟨fun r g b h => ?_,
    fun r r' g g' b b' h => ?_, fun r r' g g' b b' a a' h => ?_, fun w hw => ⟨?_, ?_, ?_⟩⟩⟩
  · rcases ofValue_cases value with h | h | ⟨a, r, g, b, h⟩
    · exact .inl (by rw [h]; rfl)
    · exact .inr (.inl (by rw [h]; rfl))
    · rw [h]
      exact .inr (.inr (exists_digits_code a r g b))
  · have hsix : [r, r, g, g, b, b].all isHexDigit = true := by
      simpa [and_assoc] using h
    rw [ofChars_spaced hbefore h hafter, ofChars_spaced hbefore hsix hafter, ofHex_three h]
    exact ⟨code_ofHex_six hsix, rfl⟩
  · rw [ofChars_spaced hbefore h hafter, code_ofHex_six h]
  · rw [ofChars_spaced hbefore h hafter, code_ofHex_eight h]
  · rw [ofChars_eq_ofText, ofChars_eq_ofText]
    exact ofText_map_spaced hexValue?_toUpper rfl (fun c => toUpper_of_isBlank) hbefore hw hafter
  · rw [ofChars_eq_ofText, ofChars_eq_ofText, lower_spaced hbefore hw hafter]
    exact ofText_map_spaced hexValue?_toLower rfl (fun c => toLower_of_isBlank) hbefore hw hafter
  · intro w' hcase
    have hw' : w'.all isHexDigit = true := by
      rw [← all_isHexDigit_map hexValue?_toLower, hcase, all_isHexDigit_map hexValue?_toLower, hw]
    rw [ofChars_spaced hbefore hw' hafter, ofChars_spaced hbefore hw hafter,
      ← ofHex_map hexValue?_toLower, hcase, ofHex_map hexValue?_toLower]

theorem code_channels_spacedRow :
    (ofChars (spaced [' '] ['1', 'a', 'F'] ['\n'])).code = "Color(0xFF11AAFF)" ∧
      (ofChars (spaced [] ['1', '1', '2', '2', '3', '3', '4', 'd'] [])).code =
        "Color(0x4D112233)" ∧
      ofChars " #1af\n".toList = ofChars (spaced [' '] ['1', 'a', 'F'] ['\n']) := by
  obtain ⟨hthree, -, -, hcase⟩ := code_channels.2 [' '] ['\n'] (by decide) (by decide)
  obtain ⟨-, -, height, -⟩ := code_channels.2 [] [] rfl rfl
  have hlower : lower (spaced [' '] ['1', 'a', 'F'] ['\n']) = " #1af\n".toList := by decide
  refine ⟨(hthree '1' 'a' 'F' (by decide)).1.trans (by decide),
    (height '1' '1' '2' '2' '3' '3' '4' 'd' (by decide)).trans (by decide), ?_⟩
  rw [← hlower]
  exact (hcase ['1', 'a', 'F'] (by decide)).2.1

end Color

end Maquette
