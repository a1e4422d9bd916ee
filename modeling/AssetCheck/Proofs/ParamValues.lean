import AssetCheck.Proofs.Json.Reading
import AssetCheck.Proofs.Pipeline.RoundTrip

/-!
# Values of parameters

A value of a parameter is taken from a JSON value by its constructor (`ofJson?`), or read from JSON
text by the first kind that fits (`read`). Both give what the JSON value stands for (`StandsFor`),
so they agree on every text that is JSON; and what a value is written as stands for that value,
unless it is a double that is not finite.
-/

namespace AssetCheck

open Json (parse)

namespace ParamValue

/-! ## The value that is stood for -/

/-- A whole number that fits 64 bits is not taken for a double, as that kind is tried later. -/
theorem firstFit?_of_standsFor {v : Json.Value} {x : ParamValue} (h : v.StandsFor x) :
    firstFit? v = some x := by
  cases h with
  | bool b => rfl
  | whole n =>
    show ((int64? n.toInt).map ParamValue.int <|> _) = _
    rw [int64?_toInt]
    rfl
  | @beyond n hn =>
    show ((int64? n).map ParamValue.int <|> _) = _
    rw [int64?_eq_none hn]
    rfl
  | float x => rfl
  | text s => rfl

theorem firstFit?_eq_none {v : Json.Value} (h : ¬ v.IsScalar) : firstFit? v = none := by
  cases v with
  | null | array _ | object _ => rfl
  | bool _ | number _ | string _ => exact absurd trivial h

theorem firstFit?_eq_ofJson? (v : Json.Value) : firstFit? v = ofJson? v := by
  by_cases h : v.IsScalar
  · obtain ⟨x, hx⟩ := exists_standsFor h
    rw [firstFit?_of_standsFor hx, ofJson?_of_standsFor hx]
  · rw [firstFit?_eq_none h, ofJson?_eq_none h]

/-! ## Reading a text -/

/-- On a text that is JSON, reading fails in one way only: no kind fits the value. -/
theorem read_eq {text : String} {v : Json.Value} (h : parse text = .ok v) :
    read text = (ofJson? v).elim (.error ⟨.noVariantFits "ParamValue", none⟩) .ok := by
  obtain ⟨rest, hscan, hend⟩ := Json.readAll_eq_ok_iff.1 h
  unfold read
  dsimp only
  rw [hscan]
  dsimp only
  rw [firstFit?_eq_ofJson?]
  cases ofJson? v with
  | none => rfl
  | some x =>
    dsimp only
    rw [hend]
    rfl

/-- **The two decoders.** On every text that is JSON they give the same value, or the one gives
none and the other fails. Both truth values, all whole numbers of 64 bits, all finite doubles and
all texts come back from what they are written as; the other doubles do not. -/
theorem decoders_agree :
    (∀ text v, parse text = .ok v →
      (∀ x, ofJson? v = some x ↔ read text = .ok x) ∧
      (ofJson? v = none ↔ ∃ e, read text = .error e)) ∧
    (∀ x : ParamValue, x.isFinite = true → ofJson? x.toJson = some x) ∧
    ∀ x : Float, x.isNaN = true ∨ x.isInf = true → ofJson? (ParamValue.float x).toJson = none := by
  refine ⟨fun text v h => ?_, fun x h => ofJson?_toJson h, fun x h => ?_⟩
  · rw [read_eq h]
    cases ofJson? v with
    | none => simp
    | some y => simp
  · have hnot : ¬ x.isFinite = true := Bool.eq_false_iff.1 (Decimal.isFinite_eq_false_iff.2 h)
    rw [toJson_of_not_finite hnot]
    rfl

/-- The largest whole number of 64 bits and the one after it, a text for which no kind fits, a
double without a fraction, and the one that is no number. -/
theorem decoders_agree_limits :
    read "9223372036854775807" = .ok (.int Int64.maxValue) ∧
      read "9223372036854775808" = .ok (.float (nearestFloat 9223372036854775808)) ∧
      (∃ e, read "[1]" = .error e) ∧
      ofJson? (ParamValue.float 2.0).toJson = some (.float 2.0) ∧
      ofJson? (ParamValue.float (0.0 / 0.0)).toJson = none := by
  obtain ⟨hread, hfinite, hother⟩ := decoders_agree
  refine ⟨?_, ?_, ?_, ?_, ?_⟩
  · exact ((hread _ (.int 9223372036854775807) rfl).1 _).1 rfl
  · exact ((hread _ (.int 9223372036854775808) rfl).1 _).1 rfl
  · exact (hread _ (.array [.int 1]) rfl).2.1 rfl
  · exact hfinite _ (by decide +kernel)
  · exact hother _ (.inl (by decide +kernel))

end ParamValue

end AssetCheck
