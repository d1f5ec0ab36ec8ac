import DomBindings.Text.Utf8

/-!
# UTF-8 and line ends

Bytes that decode are those of their text (`encode_of_decode`): the decoder takes each character in
one way only, and the encoder writes it in that way. Folding the line ends of a text is folding
those of its bytes, since the bytes of no other character have the value of a line end
(`encode_foldNewlines`). So what a text file reads as is written back as its bytes with folded line
ends, and these are its bytes just if there is no carriage return (`foldNewlineBytes_eq_self_iff`).
-/

namespace DomBindings.Text

variable {a b c d : UInt8} {n : Nat}

/-! ### The bounds of bytes -/

/-- A byte behind the first one has these bounds. -/
theorem bounds_of_isTail (h : isTail b = true) : 0x80 ≤ b.toNat ∧ b.toNat ≤ 0xBF := by
  simpa [isTail, UInt8.le_iff_toNat_le] using h

/-- So has the second one, and others behind some first bytes. -/
theorem bounds_of_isSecond (h : isSecond a b = true) :
    (0x80 ≤ b.toNat ∧ b.toNat ≤ 0xBF) ∧ (a.toNat = 0xE0 → 0xA0 ≤ b.toNat) ∧
      (a.toNat = 0xED → b.toNat ≤ 0x9F) ∧ (a.toNat = 0xF0 → 0x90 ≤ b.toNat) ∧
      (a.toNat = 0xF4 → b.toNat ≤ 0x8F) := by
  unfold isSecond at h
  split at h
  · next ha =>
    simp only [ha, UInt8.le_iff_toNat_le, UInt8.reduceToNat, Bool.and_eq_true,
      decide_eq_true_eq] at h ⊢
    omega
  split at h
  · next ha =>
    simp only [ha, UInt8.le_iff_toNat_le, UInt8.reduceToNat, Bool.and_eq_true,
      decide_eq_true_eq] at h ⊢
    omega
  split at h
  · next ha =>
    simp only [ha, UInt8.le_iff_toNat_le, UInt8.reduceToNat, Bool.and_eq_true,
      decide_eq_true_eq] at h ⊢
    omega
  split at h
  · next ha =>
    simp only [ha, UInt8.le_iff_toNat_le, UInt8.reduceToNat, Bool.and_eq_true,
      decide_eq_true_eq] at h ⊢
    omega
  · next h₁ h₂ h₃ h₄ =>
    rw [← UInt8.toNat_inj] at h₁ h₂ h₃ h₄
    exact ⟨bounds_of_isTail h, fun h => absurd h h₁, fun h => absurd h h₂, fun h => absurd h h₃,
      fun h => absurd h h₄⟩

/-! ### The bytes of a character -/

variable {x : Char}

theorem utf8EncodeChar_one (h : x.toNat ≤ 0x7F) :
    String.utf8EncodeChar x = [.ofNat x.toNat] := by
  rw [String.utf8EncodeChar]
  exact if_pos h

theorem utf8EncodeChar_two (h : 0x7F < x.toNat) (h' : x.toNat ≤ 0x7FF) :
    String.utf8EncodeChar x
      = [.ofNat (x.toNat / 0x40 % 0x20 + 0xC0), .ofNat (x.toNat % 0x40 + 0x80)] := by
  rw [String.utf8EncodeChar]
  exact (if_neg (Nat.not_le.mpr h)).trans (if_pos h')

theorem utf8EncodeChar_three (h : 0x7FF < x.toNat) (h' : x.toNat ≤ 0xFFFF) :
    String.utf8EncodeChar x
      = [.ofNat (x.toNat / 0x1000 % 0x10 + 0xE0), .ofNat (x.toNat / 0x40 % 0x40 + 0x80),
        .ofNat (x.toNat % 0x40 + 0x80)] := by
  rw [String.utf8EncodeChar]
  exact (if_neg (Nat.not_le.mpr (Nat.lt_trans (by decide) h))).trans <|
    (if_neg (Nat.not_le.mpr h)).trans (if_pos h')

theorem utf8EncodeChar_four (h : 0xFFFF < x.toNat) :
    String.utf8EncodeChar x
      = [.ofNat (x.toNat / 0x40000 % 0x8 + 0xF0), .ofNat (x.toNat / 0x1000 % 0x40 + 0x80),
        .ofNat (x.toNat / 0x40 % 0x40 + 0x80), .ofNat (x.toNat % 0x40 + 0x80)] := by
  rw [String.utf8EncodeChar]
  exact (if_neg (Nat.not_le.mpr (Nat.lt_trans (by decide) h))).trans <|
    (if_neg (Nat.not_le.mpr (Nat.lt_trans (by decide) h))).trans (if_neg (Nat.not_le.mpr h))

/-! ### Decoded characters -/

theorem toNat_ofNat (h : n.isValidChar) : (Char.ofNat n).toNat = n := by
  rw [Char.ofNat, dif_pos h]
  rfl

theorem ofNat_eq (h : n = a.toNat) : UInt8.ofNat n = a := by
  rw [h, UInt8.ofNat_toNat]

theorem encode_one (ha : a.toNat < 0x80) :
    String.utf8EncodeChar (Char.ofNat a.toNat) = [a] := by
  have hx := toNat_ofNat (n := a.toNat) (.inl (by omega))
  rw [utf8EncodeChar_one (by omega), hx, ofNat_eq rfl]

theorem encode_two (ha : 0xC2 ≤ a.toNat) (ha' : a.toNat < 0xE0) (hb : isSecond a b = true) :
    String.utf8EncodeChar (Char.ofNat (a.toNat % 0x20 * 0x40 + tailBits b)) = [a, b] := by
  obtain ⟨hb, -⟩ := bounds_of_isSecond hb
  generalize hn : a.toNat % 0x20 * 0x40 + tailBits b = n
  unfold tailBits at hn
  have hx := toNat_ofNat (n := n) (.inl (by omega))
  rw [utf8EncodeChar_two (by omega) (by omega), hx, @ofNat_eq a _ (by omega),
    @ofNat_eq b _ (by omega)]

theorem encode_three (ha : 0xE0 ≤ a.toNat) (ha' : a.toNat < 0xF0) (hb : isSecond a b = true)
    (hc : isTail c = true) :
    String.utf8EncodeChar
        (Char.ofNat ((a.toNat % 0x10 * 0x40 + tailBits b) * 0x40 + tailBits c)) = [a, b, c] := by
  obtain ⟨hb, hE0, hED, -⟩ := bounds_of_isSecond hb
  have hc := bounds_of_isTail hc
  generalize hn : (a.toNat % 0x10 * 0x40 + tailBits b) * 0x40 + tailBits c = n
  unfold tailBits at hn
  have hvalid : n.isValidChar := by
    unfold Nat.isValidChar
    omega
  have hx := toNat_ofNat hvalid
  rw [utf8EncodeChar_three (by omega) (by omega), hx, @ofNat_eq a _ (by omega),
    @ofNat_eq b _ (by omega), @ofNat_eq c _ (by omega)]

theorem encode_four (ha : 0xF0 ≤ a.toNat) (ha' : a.toNat ≤ 0xF4) (hb : isSecond a b = true)
    (hc : isTail c = true) (hd : isTail d = true) :
    String.utf8EncodeChar
        (Char.ofNat (((a.toNat % 0x8 * 0x40 + tailBits b) * 0x40 + tailBits c) * 0x40 + tailBits d))
      = [a, b, c, d] := by
  obtain ⟨hb, -, -, hF0, hF4⟩ := bounds_of_isSecond hb
  have hc := bounds_of_isTail hc
  have hd := bounds_of_isTail hd
  generalize hn : ((a.toNat % 0x8 * 0x40 + tailBits b) * 0x40 + tailBits c) * 0x40 + tailBits d = n
  unfold tailBits at hn
  have hvalid : n.isValidChar := by
    unfold Nat.isValidChar
    omega
  have hx := toNat_ofNat hvalid
  rw [utf8EncodeChar_four (by omega), hx, @ofNat_eq a _ (by omega), @ofNat_eq b _ (by omega),
    @ofNat_eq c _ (by omega), @ofNat_eq d _ (by omega)]

/-! ### Decoding -/

theorem encode_cons (x : Char) (s : Text) : encode (x :: s) = String.utf8EncodeChar x ++ encode s :=
  rfl

/-- A character that is decoded gives back its bytes, and what follows it the others. -/
theorem encode_of_map {bytes taken rest : List UInt8} {s : Text} {decoded : Except Utf8Error Text}
    (hx : String.utf8EncodeChar x = taken) (hbytes : bytes = taken ++ rest)
    (ih : ∀ s, decoded = .ok s → encode s = rest) (h : (x :: ·) <$> decoded = .ok s) :
    encode s = bytes := by
  cases decoded with
  | error e => cases h
  | ok s' =>
    obtain rfl := Except.ok.inj h
    rw [encode_cons, hx, ih s' rfl, hbytes]

/-- Bytes that decode to a text are the bytes of that text. -/
theorem encode_of_decodeFrom {position : Nat} {bytes : List UInt8} {s : Text}
    (h : decodeFrom position bytes = .ok s) : encode s = bytes := by
  fun_induction decodeFrom position bytes generalizing s with
  | case1 => exact Except.ok.inj h ▸ rfl
  | case2 position a rest ha ih =>
    exact encode_of_map (encode_one (UInt8.lt_iff_toNat_lt.mp ha)) rfl (fun _ => ih) h
  | case6 position a ha hstart ha' b rest hb ih =>
    simp only [UInt8.lt_iff_toNat_lt, UInt8.reduceToNat, Nat.not_lt, Bool.or_eq_true,
      decide_eq_true_eq, not_or, Bool.not_eq_eq_eq_not, Bool.not_true, Bool.not_eq_false]
      at ha hstart ha' hb
    exact encode_of_map (encode_two (by omega) ha' hb) rfl (fun _ => ih) h
  | case12 position a ha hstart ha' ha'' b c rest hb hc ih =>
    simp only [UInt8.lt_iff_toNat_lt, UInt8.reduceToNat, Nat.not_lt, Bool.or_eq_true,
      decide_eq_true_eq, not_or, Bool.not_eq_eq_eq_not, Bool.not_true, Bool.not_eq_false]
      at ha hstart ha' ha'' hb hc
    exact encode_of_map (encode_three (by omega) ha'' hb hc) rfl (fun _ => ih) h
  | case22 position a ha hstart ha' ha'' b c d rest hb hc hd ih =>
    simp only [UInt8.lt_iff_toNat_lt, UInt8.reduceToNat, Nat.not_lt, Bool.or_eq_true,
      decide_eq_true_eq, not_or, Bool.not_eq_eq_eq_not, Bool.not_true, Bool.not_eq_false]
      at ha hstart ha' ha'' hb hc hd
    exact encode_of_map (encode_four (by omega) (by omega) hb hc hd) rfl (fun _ => ih) h
  -- the bytes are refused
  | _ => cases h

theorem encode_of_decode {bytes : List UInt8} {s : Text} (h : decode bytes = .ok s) :
    encode s = bytes :=
  encode_of_decodeFrom h

/-! ### Line ends -/

/-- Every line end of the three conventions becomes a line feed, in bytes. -/
def foldNewlineBytes : List UInt8 → List UInt8
  | [] => []
  | 13 :: 10 :: rest => 10 :: foldNewlineBytes rest
  | 13 :: rest => 10 :: foldNewlineBytes rest
  | b :: rest => b :: foldNewlineBytes rest

theorem le_toNat_ofNat (h : 0x80 ≤ n) (h' : n < 0x100) : 0x80 ≤ (UInt8.ofNat n).toNat := by
  rwa [UInt8.toNat_ofNat_of_lt' h']

/-- A low byte is that of a character of one byte. -/
theorem toNat_eq_of_mem_utf8EncodeChar (h : b ∈ String.utf8EncodeChar x) (hb : b.toNat < 0x80) :
    x.toNat = b.toNat := by
  have hhigh : ∀ {bytes : List UInt8}, (∀ byte ∈ bytes, 0x80 ≤ byte.toNat) → b ∉ bytes :=
    fun hbytes hmem => Nat.not_lt.mpr (hbytes b hmem) hb
  rcases Nat.lt_or_ge 0x7F x.toNat with hx | hx
  · refine absurd h (hhigh ?_)
    rcases Nat.lt_or_ge 0x7FF x.toNat with hx' | hx'
    · rcases Nat.lt_or_ge 0xFFFF x.toNat with hx'' | hx''
      · rw [utf8EncodeChar_four hx'']
        simp only [List.forall_mem_cons, List.not_mem_nil, false_imp_iff, implies_true, and_true]
        refine ⟨?_, ?_, ?_, ?_⟩ <;> exact le_toNat_ofNat (by omega) (by omega)
      · rw [utf8EncodeChar_three hx' hx'']
        simp only [List.forall_mem_cons, List.not_mem_nil, false_imp_iff, implies_true, and_true]
        refine ⟨?_, ?_, ?_⟩ <;> exact le_toNat_ofNat (by omega) (by omega)
    · rw [utf8EncodeChar_two hx hx']
      simp only [List.forall_mem_cons, List.not_mem_nil, false_imp_iff, implies_true, and_true]
      constructor <;> exact le_toNat_ofNat (by omega) (by omega)
  · rw [utf8EncodeChar_one hx] at h
    obtain rfl := List.mem_singleton.mp h
    rw [UInt8.toNat_ofNat_of_lt' (Nat.lt_of_le_of_lt hx (by decide))]

/-- So the bytes of line ends are those of the characters. -/
theorem eq_of_mem_utf8EncodeChar {y : Char} (h : b ∈ String.utf8EncodeChar x)
    (hb : b.toNat = y.toNat) (hy : y.toNat < 0x80) : x = y :=
  Char.toNat_inj.mp ((toNat_eq_of_mem_utf8EncodeChar h (hb ▸ hy)).trans hb)

/-- Folding passes over bytes that are no carriage returns. -/
theorem foldNewlineBytes_append {bytes : List UInt8} (h : 13 ∉ bytes) (rest : List UInt8) :
    foldNewlineBytes (bytes ++ rest) = bytes ++ foldNewlineBytes rest := by
  induction bytes with
  | nil => rfl
  | cons b bytes ih =>
    rw [List.mem_cons, not_or] at h
    rw [List.cons_append, foldNewlineBytes, ih h.2, List.cons_append]
    · exact fun _ hb _ => h.1 hb.symm
    · exact fun hb => h.1 hb.symm

/-- A carriage return with no line feed behind it becomes one. -/
theorem foldNewlineBytes_return {rest : List UInt8} (h : rest.head? ≠ some 10) :
    foldNewlineBytes (13 :: rest) = 10 :: foldNewlineBytes rest := by
  cases rest with
  | nil => rfl
  | cons b rest =>
    rw [foldNewlineBytes]
    intro rest' hrest
    exact h (congrArg List.head? hrest)

/-- Folding the line ends of a text is folding those of its bytes. -/
theorem encode_foldNewlines (s : Text) : encode (foldNewlines s) = foldNewlineBytes (encode s) := by
  fun_induction foldNewlines s with
  | case1 => rfl
  | case2 rest ih =>
    rw [encode_cons, encode_cons, encode_cons, ih]
    rfl
  | case3 rest hnext ih =>
    have hhead : (encode rest).head? ≠ some 10 := by
      intro h
      cases rest with
      | nil => cases h
      | cons c rest =>
        obtain ⟨b, bytes, hbytes⟩ := List.exists_cons_of_ne_nil (@String.utf8EncodeChar_ne_nil c)
        rw [encode_cons, hbytes] at h
        obtain rfl : b = 10 := Option.some.inj h
        have hc : c = '\n' := eq_of_mem_utf8EncodeChar (hbytes ▸ List.mem_cons_self) rfl (by decide)
        exact hnext rest (hc ▸ rfl)
    rw [encode_cons, encode_cons, ih]
    exact (foldNewlineBytes_return hhead).symm
  | case4 c rest hpair hreturn ih =>
    have hc : 13 ∉ String.utf8EncodeChar c := fun h =>
      hreturn (@eq_of_mem_utf8EncodeChar _ _ '\r' h rfl (by decide))
    rw [encode_cons, encode_cons, ih, foldNewlineBytes_append hc]

/-- Folding leaves no carriage return. -/
theorem not_mem_foldNewlineBytes (bytes : List UInt8) : 13 ∉ foldNewlineBytes bytes := by
  fun_induction foldNewlineBytes bytes with
  | case1 => simp
  | case2 rest ih => simpa using ih
  | case3 rest _ ih => simpa using ih
  | case4 b rest _ hreturn ih =>
    rw [List.mem_cons, not_or]
    exact ⟨fun h => hreturn h.symm, ih⟩

/-- So it changes nothing just if there is none. -/
theorem foldNewlineBytes_eq_self_iff {bytes : List UInt8} :
    foldNewlineBytes bytes = bytes ↔ 13 ∉ bytes := by
  constructor
  · intro h
    rw [← h]
    exact not_mem_foldNewlineBytes bytes
  · intro h
    simpa [foldNewlineBytes] using foldNewlineBytes_append h []

/-- What a text file reads as, written back, is its bytes with folded line ends. -/
theorem encode_of_ofFileBytes {bytes : List UInt8} {s : Text} (h : ofFileBytes bytes = .ok s) :
    encode s = foldNewlineBytes bytes := by
  obtain ⟨decoded, hdecoded, rfl⟩ : ∃ decoded, decode bytes = .ok decoded ∧
      foldNewlines decoded = s := by
    unfold ofFileBytes at h
    cases hd : decode bytes with
    | error e =>
      rw [hd] at h
      cases h
    | ok decoded =>
      rw [hd] at h
      exact ⟨decoded, rfl, Except.ok.inj h⟩
  rw [encode_foldNewlines, encode_of_decode hdecoded]

end DomBindings.Text
