import DatabaseSync.MysqlSink.Value
import DatabaseSync.MysqlSource.DecimalText
import DatabaseSync.Planner.DecimalRange

/-! # Decimals between the MySQL sink and the MySQL source

The sink renders a decimal value as a text that the source reads back as the same number at the
same scale, and the number of a text survives being read and rendered.
-/

namespace DatabaseSync.Worker

open ChangeEvent Checked Decimal MysqlSource Planner Text

section Render

variable {unscaled text : String} {scale : ℕ} {value : ℤ}

/-- A finite decimal is a sign and digits to the sink as well. -/
theorem unsignedDigits_eq (h : isDigits (dropMinus unscaled.toList) = true) :
    MysqlSink.unsignedDigits unscaled = dropMinus unscaled.toList :=
  stripSign_eq_dropMinus h

theorem signText_eq : (MysqlSink.signText unscaled).toList =
    if unscaled.toList.head? == some '-' then ['-'] else [] := by
  unfold MysqlSink.signText
  by_cases hminus : unscaled.toList.head? = some '-'
  · rw [if_pos hminus, if_pos (by rw [hminus]; rfl)]
    rfl
  · rw [if_neg hminus, if_neg (by simpa using hminus)]
    rfl

/-- The sign that the sink writes. -/
theorem signText_sign (negative : Bool) :
    SignText (if negative then ['-'] else []) negative := by
  cases negative with
  | false => exact .none
  | true => exact .minus

/-- The sink writes the number of the digits, with as many of them after the point as the scale
says. -/
theorem renderDecimal_text (h : isDigits (MysqlSink.unsignedDigits unscaled) = true) (scale : ℕ) :
    ∃ text whole fraction, MysqlSink.renderDecimal unscaled scale = .ok text ∧
      DecimalText text.toList (unscaled.toList.head? == some '-') whole fraction ∧
      fraction.length = scale ∧
      decimalValue (whole ++ fraction) = decimalValue (MysqlSink.unsignedDigits unscaled) := by
  have hsign := signText_sign (unscaled.toList.head? == some '-')
  rw [← signText_eq] at hsign
  have hmem := digits_of_isDigits h
  have hne := (isDigits_iff.mp h).1
  unfold MysqlSink.renderDecimal
  dsimp only
  rw [h, if_neg (by decide)]
  generalize MysqlSink.unsignedDigits unscaled = digits at *
  split
  · next hzero =>
    -- without a point
    refine ⟨_, digits, [], rfl, ?_, hzero.symm, by rw [List.append_nil]⟩
    rw [String.toList_append, String.toList_ofList]
    exact .whole hsign h
  · split
    · -- the point stands among the digits
      next hlt =>
      have hsplit := List.take_append_drop (digits.length - scale) digits
      refine ⟨_, digits.take (digits.length - scale), digits.drop (digits.length - scale), rfl,
        ?_, ?_, by rw [hsplit]⟩
      · have hparts : isDigits (digits.take (digits.length - scale) ++
            digits.drop (digits.length - scale)) = true := by
          rwa [hsplit]
        have htext := DecimalText.point hsign hparts
        simpa using htext
      · rw [List.length_drop]
        omega
    · -- the digits start behind the point, after zeros
      next hge =>
      have hzeros := decimalValue_zeros (scale - digits.length) digits
      have hdigits : isDigits (['0'] ++ (List.replicate (scale - digits.length) '0' ++ digits)) =
          true := by
        rw [isDigits_iff]
        refine ⟨by simp, ?_⟩
        intro c hc
        rcases List.mem_append.mp hc with hc | hc
        · obtain rfl := List.mem_singleton.mp hc
          decide
        · rcases List.mem_append.mp hc with hc | hc
          · obtain rfl := List.eq_of_mem_replicate hc
            decide
          · exact hmem c hc
      refine ⟨_, ['0'], List.replicate (scale - digits.length) '0' ++ digits, rfl, ?_, ?_, ?_⟩
      · have htext := DecimalText.point hsign hdigits
        simpa [toList_pushn] using htext
      · rw [List.length_append, List.length_replicate]
        omega
      · rw [← hzeros]
        exact decimalValue_zeros 1 _

/-- The sign and the digits of what the source reads from a text. -/
theorem head_unsignedDigits {negative : Bool} {digits : List Char} (h : isDigits digits = true) :
    (((if negative then ['-'] else []) ++ digits).head? == some '-') = negative ∧
      stripSign ((if negative then ['-'] else []) ++ digits) = digits := by
  obtain ⟨hminus, hplus⟩ := head_of_digits [] (digits_of_isDigits h) (.inl rfl)
  rw [List.append_nil] at hminus hplus
  exact (signText_sign negative).read hminus hplus

theorem decimalNumber_read {negative : Bool} {digits : List Char} (h : isDigits digits = true)
    (scale : ℤ) :
    decimalNumber (String.ofList ((if negative then ['-'] else []) ++ digits)) scale =
      number negative digits scale := by
  have hdrop : dropMinus ((if negative then ['-'] else []) ++ digits) = digits := by
    cases negative with
    | false =>
      unfold dropMinus
      split
      · next hminus =>
        have hsign := digits_of_isDigits h '-'
        rw [if_neg Bool.false_ne_true, List.nil_append] at hminus
        exact absurd (hsign (hminus ▸ List.mem_cons_self)) (by decide)
      · rfl
    | true => rfl
  rw [decimalNumber, String.toList_ofList, (head_unsignedDigits h).1, hdrop]

theorem number_congr {negative : Bool} {digits digits' : List Char} {scale : ℤ}
    (h : decimalValue digits = decimalValue digits') :
    number negative digits scale = number negative digits' scale := by
  rw [number, number, h]

/-- The sink has no text for a special value. -/
theorem finite_of_rendered (h : MysqlSink.renderDecimal unscaled scale = .ok text) :
    isSpecialDecimal unscaled = false := by
  unfold MysqlSink.renderDecimal at h
  dsimp only at h
  rw [guard_eq_ok] at h
  have hdigits : isDigits (MysqlSink.unsignedDigits unscaled) = true := by simpa using h.1
  rw [← Bool.not_eq_true, isSpecialDecimal, List.contains_iff_mem]
  simp only [List.mem_cons, List.not_mem_nil, or_false, not_or]
  refine ⟨?_, ?_, ?_⟩
  · rintro rfl
    exact absurd hdigits (by decide)
  · rintro rfl
    exact absurd hdigits (by decide)
  · rintro rfl
    exact absurd hdigits (by decide)

/-- The sink's text of a value is read as the same number at the same scale. -/
theorem read_rendered (h : FiniteDecimal unscaled value) {scale : ℕ} (hscale : scale < 2 ^ 31) :
    ∃ text read, MysqlSink.renderDecimal unscaled scale = .ok text ∧
      parseDecimal text = .ok (.decimal read scale) ∧
      decimalNumber read scale = decimalNumber unscaled scale := by
  have hdigits := unsignedDigits_eq h.digits
  obtain ⟨text, whole, fraction, hrender, htext, rfl, hvalue⟩ :=
    renderDecimal_text (by rw [hdigits]; exact h.digits) scale
  refine ⟨text, _, hrender, parseDecimal_iff.mpr ⟨_, whole, fraction, htext, hscale, rfl, rfl⟩, ?_⟩
  rw [decimalNumber_read htext.digits, decimalNumber]
  rw [hdigits] at hvalue
  exact number_congr hvalue

/-- What the source reads from a text is written with the number of the text. -/
theorem rendered_read {text : String} {negative : Bool} {whole fraction : List Char}
    (h : DecimalText text.toList negative whole fraction) :
    ∃ written, MysqlSink.renderDecimal
        (String.ofList ((if negative then ['-'] else []) ++ (whole ++ fraction)))
        fraction.length = .ok written ∧
      Denotes written (number negative (whole ++ fraction) fraction.length) := by
  obtain ⟨hnegative, hstrip⟩ := @head_unsignedDigits negative _ h.digits
  obtain ⟨unscaled, hlist⟩ : ∃ unscaled : String,
      unscaled.toList = (if negative then ['-'] else []) ++ (whole ++ fraction) :=
    ⟨_, String.toList_ofList⟩
  rw [← hlist] at hnegative hstrip ⊢
  rw [String.ofList_toList]
  have hdigits : MysqlSink.unsignedDigits unscaled = whole ++ fraction := hstrip
  obtain ⟨written, whole', fraction', hrender, hwritten, hlength, hvalue⟩ :=
    renderDecimal_text (by rw [hdigits]; exact h.digits) fraction.length
  rw [hnegative] at hwritten
  refine ⟨written, hrender, negative, whole', fraction', hwritten, ?_⟩
  rw [hlength]
  rw [hdigits] at hvalue
  exact number_congr hvalue.symm

end Render

/-- The sink's text of an admitted value is read as the same number at the same scale, which is not
negative. What is read from a text has the number of the text when it is written again, and the
sink writes it where a column of 65 digits, 30 of them after the point, can hold it. -/
theorem decimal_text_round_trip :
    (∀ unscaled scale, FiniteDecimal unscaled scale → 0 ≤ scale → scale < 2 ^ 31 →
      ∃ text read, MysqlSink.renderDecimal unscaled scale.toNat = .ok text ∧
        parseDecimal text = .ok (.decimal read scale) ∧
        decimalNumber read scale = decimalNumber unscaled scale) ∧
    (∀ unscaled scale bytes, decimal unscaled scale = .ok () →
      MysqlSink.decimalValue unscaled scale = .ok (.bytes bytes) → 0 ≤ scale ∧
      ∃ text read, bytes = MysqlSink.utf8Bytes text ∧
        parseDecimal text = .ok (.decimal read scale) ∧
        decimalNumber read scale = decimalNumber unscaled scale) ∧
    ∀ text negative whole fraction, DecimalText text.toList negative whole fraction →
      fraction.length < 2 ^ 31 → ∃ unscaled written,
        parseDecimal text = .ok (.decimal unscaled fraction.length) ∧
        MysqlSink.renderDecimal unscaled fraction.length = .ok written ∧
        Denotes written (number negative (whole ++ fraction) fraction.length) ∧
        ((whole ++ fraction).length ≤ 65 → fraction.length ≤ 30 →
          MysqlSink.decimalValue unscaled fraction.length =
            .ok (.bytes (MysqlSink.utf8Bytes written))) := by
  refine ⟨?_, ?_, ?_⟩
  · intro unscaled scale h hpos hlt
    obtain ⟨n, rfl⟩ := Int.eq_ofNat_of_zero_le hpos
    exact read_rendered h (by exact_mod_cast hlt)
  · intro unscaled scale bytes hvalid h
    unfold MysqlSink.decimalValue at h
    simp only [throw_eq, error_bind, guard_eq_ok, not_or, not_not, bind_eq_ok, pure_eq,
      Except.ok.injEq, MysqlSink.Value.bytes.injEq] at h
    obtain ⟨⟨-, hpos, hle⟩, text, hrender, rfl⟩ := h
    obtain ⟨n, rfl⟩ := Int.eq_ofNat_of_zero_le hpos
    obtain ⟨text', read, hrender', hread⟩ :=
      @read_rendered _ n ⟨hvalid, finite_of_rendered hrender⟩ n (by omega)
    obtain rfl := Except.ok.inj (hrender.symm.trans hrender')
    exact ⟨hpos, text, read, rfl, hread⟩
  · intro text negative whole fraction h hlength
    obtain ⟨written, hrender, hdenotes⟩ := rendered_read h
    refine ⟨_, written, parseDecimal_iff.mpr ⟨_, _, _, h, hlength, rfl, rfl⟩, hrender, hdenotes, ?_⟩
    intro hdigits hscale
    have hlist : (String.ofList ((if negative then ['-'] else []) ++ (whole ++ fraction))).toList =
        (if negative then ['-'] else []) ++ (whole ++ fraction) := String.toList_ofList
    have hunsigned : MysqlSink.unsignedDigits
        (String.ofList ((if negative then ['-'] else []) ++ (whole ++ fraction))) =
          whole ++ fraction := by
      have hstrip := (@head_unsignedDigits negative _ h.digits).2
      rwa [← hlist] at hstrip
    unfold MysqlSink.decimalValue
    rw [hunsigned, if_neg (by omega), Int.toNat_natCast, hrender]
    rfl

end DatabaseSync.Worker
