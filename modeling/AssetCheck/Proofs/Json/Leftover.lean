import AssetCheck.Json.Parser
import AssetCheck.Json.Skip
import AssetCheck.Proofs.Json.Along
import AssetCheck.Proofs.Json.Values
import AssetCheck.Proofs.Step

/-!
# What a scan leaves

A scan takes from the front of its text, so it leaves no more than there was (`Shrinks`). A loop
whose fuel is the length of its text therefore never runs out of it: each of its turns takes one
character at least.
-/

namespace AssetCheck.Json

/-- What the scan leaves of a text is no longer than the text. -/
def Shrinks {α : Type} (scan : Scan α) : Prop :=
  ∀ cs x rest, scan cs = .ok (x, rest) → rest.length ≤ cs.length

section Leftover

variable {cs rest : List Char}

/-! ## Strings -/

theorem length_skipSpace_le (cs : List Char) : (skipSpace cs).length ≤ cs.length :=
  (List.dropWhile_suffix isSpace).length_le

theorem lt_of_skipSpace {c : Char} (h : skipSpace cs = c :: rest) : rest.length < cs.length := by
  have hle := length_skipSpace_le cs
  rw [h, List.length_cons] at hle
  exact hle

theorem le_of_behind {c : Char} {more : List Char} (hcs : skipSpace cs = c :: more)
    (h : rest.length ≤ more.length) : rest.length ≤ cs.length :=
  Nat.le_trans h (Nat.le_of_lt (lt_of_skipSpace hcs))

theorem le_of_scanWord {ws : List Char} (h : scanWord ws cs = .ok rest) :
    rest.length ≤ cs.length := by
  induction ws generalizing cs with
  | nil =>
    cases h
    exact Nat.le_refl _
  | cons w ws ih =>
    cases cs with
    | nil => cases h
    | cons c cs =>
      unfold scanWord at h
      split at h
      · exact Nat.le_succ_of_le (ih h)
      · cases h

theorem scanHex4_shrinks : Shrinks scanHex4 := by
  intro cs n rest h
  unfold scanHex4 at h
  dsimp only at h
  split at h
  · next found hfound =>
    cases h
    split at hfound
    · obtain ⟨_, -, hpair⟩ := Option.map_eq_some_iff.1 hfound
      cases hpair
      simp only [List.length_cons]
      omega
    · cases hfound
  · split at h <;> cases h

theorem scanLowSurrogate_shrinks (high : Nat) : Shrinks (scanLowSurrogate high) := by
  intro cs c rest h
  unfold scanLowSurrogate at h
  split at h
  · cases h
  · cases h
  · obtain ⟨⟨low, more⟩, hlow, hc⟩ := exists_ok_of_bind h
    have hle := scanHex4_shrinks _ _ _ hlow
    dsimp only at hc
    split at hc
    · obtain ⟨-, rfl⟩ := Prod.mk.inj (Except.ok.inj hc)
      simp only [List.length_cons]
      omega
    · cases hc
  · cases h
  · cases h

theorem scanEscape_shrinks : Shrinks scanEscape := by
  intro cs c rest h
  unfold scanEscape at h
  split at h
  case h_10 =>
    obtain ⟨⟨n, more⟩, hn, hc⟩ := exists_ok_of_bind h
    have hle := scanHex4_shrinks _ _ _ hn
    dsimp only at hc
    split at hc
    · cases hc
    · split at hc
      · have hlow := scanLowSurrogate_shrinks _ _ _ _ hc
        simp only [List.length_cons]
        omega
      · obtain ⟨-, rfl⟩ := Prod.mk.inj (Except.ok.inj hc)
        simp only [List.length_cons]
        omega
  all_goals
    cases h
    try exact Nat.le_succ _

theorem scanChars_shrinks (fuel : Nat) (read : List Char) : Shrinks (scanChars fuel read) := by
  intro cs s rest h
  induction fuel generalizing read cs with
  | zero => cases h
  | succ fuel ih =>
    unfold scanChars at h
    split at h
    · cases h
    · cases h
    · cases h
      exact Nat.le_succ _
    · next hfuel =>
      cases hfuel
      obtain ⟨⟨c, more⟩, hc, hmore⟩ := exists_ok_of_bind h
      have hescape := scanEscape_shrinks _ _ _ hc
      have hrest := ih _ _ hmore
      rw [List.length_cons]
      omega
    · next hfuel =>
      cases hfuel
      split at h
      · cases h
      · exact Nat.le_succ_of_le (ih _ _ h)

theorem scanString_shrinks : Shrinks scanString := fun _ => scanChars_shrinks _ _ _

/-! ## Numbers -/

theorem finish_shrinks (negative : Bool) (significand : Nat) (exponent : Int) :
    Shrinks (finish negative significand exponent) := by
  intro cs n rest h
  unfold finish at h
  dsimp only at h
  split at h
  · cases h
  · cases h
    exact Nat.le_refl _

theorem length_dropWhile_isDigit_le (cs : List Char) :
    (cs.dropWhile Char.isDigit).length ≤ cs.length :=
  (List.dropWhile_suffix Char.isDigit).length_le

theorem length_scanExponentDigits_le (n : Nat) (cs : List Char) :
    (scanExponentDigits n cs).2.2.length ≤ cs.length := by
  induction cs generalizing n with
  | nil => exact Nat.le_refl _
  | cons c cs ih =>
    unfold scanExponentDigits
    split
    · dsimp only
      split
      · exact Nat.le_succ _
      · exact Nat.le_succ_of_le (ih _)
    · exact Nat.le_refl _

theorem length_splitSign_le (cs : List Char) : (Decimal.splitSign cs).2.length ≤ cs.length := by
  unfold Decimal.splitSign
  split <;> simp

theorem scanExponent_shrinks (negative : Bool) (significand : Nat) (start : Int) :
    Shrinks (scanExponent negative significand start) := by
  intro cs n rest h
  have hsign := length_splitSign_le cs
  unfold scanExponent at h
  dsimp only at h
  split at h
  · cases h
  · next c more hmore =>
    rw [hmore] at hsign
    have hdigits := length_scanExponentDigits_le 0 (c :: more)
    split at h
    · split at h
      · next he =>
        rw [he] at hdigits
        have hle := finish_shrinks _ _ _ _ _ _ h
        dsimp only at hdigits
        omega
      · next he =>
        rw [he] at hdigits
        split at h
        · cases h
        · have hle := finish_shrinks _ _ _ _ _ _ h
          have hdrop := Nat.le_trans hle (length_dropWhile_isDigit_le _)
          dsimp only at hdigits
          omega
    · cases h

theorem finishWhole_shrinks (negative : Bool) (n more : Nat) :
    Shrinks (finishWhole negative n more) := by
  intro cs x rest h
  unfold finishWhole at h
  split at h
  · exact finish_shrinks _ _ _ _ _ _ h
  · split at h
    · split at h
      · exact finish_shrinks _ _ _ _ _ _ h
      · cases h
        exact Nat.le_refl _
    · cases h
      exact Nat.le_refl _

theorem scanFraction_shrinks (negative : Bool) (whole : List Char) :
    Shrinks (scanFraction negative whole) := by
  intro cs n rest h
  unfold scanFraction at h
  dsimp only at h
  split at h
  · next more =>
    have hdrop := length_dropWhile_isDigit_le more
    rw [List.length_cons]
    split at h
    · cases h
    · cases h
    · next hafter _ =>
      have hle := scanExponent_shrinks _ _ _ _ _ _ h
      rw [hafter, List.length_cons] at hdrop
      omega
    · next hafter _ =>
      have hle := scanExponent_shrinks _ _ _ _ _ _ h
      rw [hafter, List.length_cons] at hdrop
      omega
    · have hle := finish_shrinks _ _ _ _ _ _ h
      omega
  · exact Nat.le_succ_of_le (scanExponent_shrinks _ _ _ _ _ _ h)
  · exact Nat.le_succ_of_le (scanExponent_shrinks _ _ _ _ _ _ h)
  · exact finishWhole_shrinks _ _ _ _ _ _ h

theorem scanUnsigned_shrinks (negative : Bool) : Shrinks (scanUnsigned negative) := by
  intro cs n rest h
  unfold scanUnsigned at h
  split at h
  · cases h
  · split at h
    · cases h
    · exact Nat.le_succ_of_le (scanFraction_shrinks _ _ _ _ _ h)
  · split at h
    · exact Nat.le_trans (scanFraction_shrinks _ _ _ _ _ h) (length_dropWhile_isDigit_le _)
    · cases h

/-! ## Lists, objects and values -/

theorem le_of_scanColon (h : scanColon cs = .ok rest) : rest.length ≤ cs.length := by
  unfold scanColon at h
  split at h
  · next hcolon =>
    cases h
    exact Nat.le_of_lt (lt_of_skipSpace hcolon)
  · cases h
  · cases h

theorem ElementAt.length_le {first : Bool} {more : List Char} (h : ElementAt first cs more) :
    more.length ≤ cs.length := by
  cases h with
  | first hcs _ =>
    have hle := length_skipSpace_le cs
    rwa [hcs] at hle
  | @next _ gap _ _ hcs hgap _ =>
    have hlt := lt_of_skipSpace hcs
    have hle := length_skipSpace_le gap
    rw [hgap] at hle
    omega

theorem KeyAt.length_lt {first : Bool} {more : List Char} (h : KeyAt first cs more) :
    more.length < cs.length := by
  cases h with
  | first hcs => exact lt_of_skipSpace hcs
  | next hcs hgap => exact Nat.lt_trans (lt_of_skipSpace hgap) (lt_of_skipSpace hcs)

theorem KeyAt.lt_of_scanColon {first : Bool} {key colon body : List Char} {name : String}
    (h : KeyAt first cs key) (hname : scanString key = .ok (name, colon))
    (hcolon : scanColon colon = .ok body) : body.length < cs.length :=
  calc body.length ≤ colon.length := le_of_scanColon hcolon
    _ ≤ key.length := scanString_shrinks _ _ _ hname
    _ < cs.length := h.length_lt

/-- Each element may leave as much as it found: the separator is gone. -/
theorem scanElements_shrinks {α : Type} {element : Scan α} (helement : Shrinks element)
    (fuel : Nat) (read : List α) : Shrinks (scanElements element fuel read) := by
  intro cs xs rest h
  induction fuel generalizing read cs with
  | zero => cases h
  | succ fuel ih =>
    rcases scanElements_cases h with ⟨hcs, -⟩ | ⟨more, x, others, hat, hx, hothers⟩
    · exact Nat.le_of_lt (lt_of_skipSpace hcs)
    · have hx := helement _ _ _ hx
      have hothers := ih _ _ hothers
      have hmore := hat.length_le
      omega

theorem scanMembers_shrinks {σ : Type} {member : String → σ → Scan σ}
    (hmember : ∀ key known, Shrinks (member key known)) (fuel : Nat) (first : Bool) (known : σ) :
    Shrinks (scanMembers member fuel first known) := by
  intro cs final rest h
  induction fuel generalizing first known cs with
  | zero => cases h
  | succ fuel ih =>
    rcases scanMembers_cases h with
      ⟨hcs, -⟩ | ⟨more, key, value, next, others, hat, hkey, hnext, hothers⟩
    · exact Nat.le_of_lt (lt_of_skipSpace hcs)
    · have hkey := scanString_shrinks _ _ _ hkey
      have hnext := hmember _ _ _ _ _ hnext
      have hothers := ih _ _ _ hothers
      have hmore := hat.length_lt
      omega

theorem listMember_shrinks {scan : Scan Value} (hscan : Shrinks scan) (key : String)
    (known : List (String × Value)) : Shrinks (listMember scan key known) := by
  intro cs ms rest h
  obtain ⟨more, hcolon, hmore⟩ := exists_ok_of_bind h
  obtain ⟨⟨v, others⟩, hv, hms⟩ := exists_ok_of_bind hmore
  cases hms
  exact Nat.le_trans (hscan _ _ _ hv) (le_of_scanColon hcolon)

theorem scanValueWith_shrinks {inner : Option (Scan Value)}
    (hinner : ∀ scan ∈ inner, Shrinks scan) : Shrinks (scanValueWith inner) := by
  intro cs v rest h
  unfold scanValueWith at h
  split at h
  · cases h
  · next hcs =>
    obtain ⟨others, hothers, hv⟩ := exists_ok_of_bind h
    cases hv
    exact le_of_behind hcs (le_of_scanWord hothers)
  · next hcs =>
    obtain ⟨others, hothers, hv⟩ := exists_ok_of_bind h
    cases hv
    exact le_of_behind hcs (le_of_scanWord hothers)
  · next hcs =>
    obtain ⟨others, hothers, hv⟩ := exists_ok_of_bind h
    cases hv
    exact le_of_behind hcs (le_of_scanWord hothers)
  · next hcs =>
    obtain ⟨⟨s, others⟩, hs, hv⟩ := exists_ok_of_bind h
    cases hv
    exact le_of_behind hcs (scanString_shrinks _ _ _ hs)
  · next hcs =>
    obtain ⟨⟨n, others⟩, hn, hv⟩ := exists_ok_of_bind h
    cases hv
    exact le_of_behind hcs (scanUnsigned_shrinks _ _ _ _ hn)
  · next hcs =>
    split at h
    · cases h
    · next scan =>
      obtain ⟨⟨vs, others⟩, hvs, hv⟩ := exists_ok_of_bind h
      cases hv
      exact le_of_behind hcs (scanElements_shrinks (hinner scan rfl) _ _ _ _ _ hvs)
  · next hcs =>
    split at h
    · cases h
    · next scan =>
      obtain ⟨⟨ms, others⟩, hms, hv⟩ := exists_ok_of_bind h
      cases hv
      have hmember := listMember_shrinks (hinner scan rfl)
      exact le_of_behind hcs (scanMembers_shrinks hmember _ _ _ _ _ _ hms)
  · next hcs =>
    have hle := length_skipSpace_le cs
    rw [hcs] at hle
    split at h
    · obtain ⟨⟨n, others⟩, hn, hv⟩ := exists_ok_of_bind h
      cases hv
      exact Nat.le_trans (scanUnsigned_shrinks _ _ _ _ hn) hle
    · cases h

theorem scanValue_shrinks (depth : Nat) : Shrinks (scanValue depth) := by
  induction depth with
  | zero => exact scanValueWith_shrinks nofun
  | succ depth ih =>
    refine scanValueWith_shrinks fun scan hscan => ?_
    cases hscan
    exact ih

/-! ## Skipped values -/

theorem le_of_skipChars {fuel : Nat} (h : skipChars fuel cs = .ok rest) :
    rest.length ≤ cs.length := by
  induction fuel generalizing cs with
  | zero => cases h
  | succ fuel ih =>
    unfold skipChars at h
    split at h
    case h_6 hfuel =>
      cases hfuel
      split at h
      · have hrest := ih h
        simp only [List.length_cons]
        omega
      · cases h
    case h_7 hfuel =>
      cases hfuel
      split at h
      · cases h
      · exact Nat.le_succ_of_le (ih h)
    · cases h
    · cases h
    · cases h
      exact Nat.le_succ _
    · cases h
    · next hfuel =>
      cases hfuel
      obtain ⟨⟨n, more⟩, hn, hmore⟩ := exists_ok_of_bind h
      have hle := scanHex4_shrinks _ _ _ hn
      have hrest := ih hmore
      simp only [List.length_cons]
      omega

theorem le_of_skipDigits (h : skipDigits cs = .ok rest) : rest.length ≤ cs.length := by
  unfold skipDigits at h
  split at h
  · split at h
    · cases h
      exact Nat.le_succ_of_le (length_dropWhile_isDigit_le _)
    · cases h
  · cases h

theorem le_of_skipExponent (h : skipExponent cs = .ok rest) : rest.length ≤ cs.length := by
  unfold skipExponent at h
  split at h
  · split at h
    · exact Nat.le_succ_of_le (Nat.le_trans (le_of_skipDigits h) (length_splitSign_le _))
    · cases h
      exact Nat.le_refl _
  · cases h
    exact Nat.le_refl _

theorem le_of_skipUnsigned (h : skipUnsigned cs = .ok rest) : rest.length ≤ cs.length := by
  have hfraction : ∀ {more}, (skipDigits more >>= skipExponent) = .ok rest →
      rest.length ≤ more.length := by
    intro more h
    obtain ⟨others, hdigits, hothers⟩ := exists_ok_of_bind h
    exact Nat.le_trans (le_of_skipExponent hothers) (le_of_skipDigits hdigits)
  unfold skipUnsigned at h
  dsimp only at h
  split at h
  · split at h
    · cases h
    · obtain ⟨more, hwhole, hmore⟩ := exists_ok_of_bind h
      cases hwhole
      rw [List.length_cons]
      split at hmore
      · next hpoint =>
        cases hpoint
        exact Nat.le_succ_of_le (Nat.le_succ_of_le (hfraction hmore))
      · exact Nat.le_succ_of_le (le_of_skipExponent hmore)
  · obtain ⟨more, hwhole, hmore⟩ := exists_ok_of_bind h
    have hle := le_of_skipDigits hwhole
    split at hmore
    · have hrest := hfraction hmore
      rw [List.length_cons] at hle
      omega
    · exact Nat.le_trans (le_of_skipExponent hmore) hle

theorem le_of_skipKey {bracket : Bracket} (h : bracket.skipKey cs = .ok rest) :
    rest.length ≤ cs.length := by
  unfold Bracket.skipKey at h
  split at h
  · cases h
    exact Nat.le_refl _
  · split at h
    · next hcs =>
      obtain ⟨more, hkey, hcolon⟩ := exists_ok_of_bind h
      have hle := le_of_skipChars hkey
      have hrest := le_of_scanColon hcolon
      have hlt := lt_of_skipSpace hcs
      omega
    · cases h
    · cases h

/-- Values and parts take turns, each with less fuel than the other. -/
theorem le_of_skip (fuel : Nat) :
    (∀ cs rest, skipValueWithin fuel cs = .ok rest → rest.length ≤ cs.length) ∧
      ∀ bracket first cs rest, skipParts fuel bracket first cs = .ok rest →
        rest.length ≤ cs.length := by
  induction fuel with
  | zero => exact ⟨nofun, nofun⟩
  | succ fuel ih =>
    obtain ⟨hvalue, hparts⟩ := ih
    constructor
    · intro cs rest h
      unfold skipValueWithin at h
      split at h
      · cases h
      · next hcs => exact le_of_behind hcs (le_of_scanWord h)
      · next hcs => exact le_of_behind hcs (le_of_scanWord h)
      · next hcs => exact le_of_behind hcs (le_of_scanWord h)
      · next hcs => exact le_of_behind hcs (le_of_skipChars h)
      · next hcs => exact le_of_behind hcs (le_of_skipUnsigned h)
      · next hcs => exact le_of_behind hcs (hparts _ _ _ _ h)
      · next hcs => exact le_of_behind hcs (hparts _ _ _ _ h)
      · next hcs =>
        have hle := length_skipSpace_le cs
        rw [hcs] at hle
        split at h
        · exact Nat.le_trans (le_of_skipUnsigned h) hle
        · cases h
    · intro bracket first cs rest h
      unfold skipParts at h
      split at h
      · cases h
      · next c more hcs =>
        have hlt := lt_of_skipSpace hcs
        split at h
        · cases h
          exact Nat.le_of_lt hlt
        · split at h
          · obtain ⟨value, hkey, hmore⟩ := exists_ok_of_bind h
            obtain ⟨others, hskip, hothers⟩ := exists_ok_of_bind hmore
            have hkey := le_of_skipKey hkey
            have hskip := hvalue _ _ hskip
            have hothers := hparts _ _ _ _ hothers
            split at hkey
            · rw [List.length_cons] at hkey
              omega
            · omega
          · cases h

theorem le_of_skipValue (h : skipValue cs = .ok rest) : rest.length ≤ cs.length :=
  (le_of_skip _).1 cs rest h

end Leftover

end AssetCheck.Json
