import FacetSearch.Proofs.JsonTexts
import FacetSearch.Proofs.Members
import FacetSearch.Proofs.RequestLimits
import FacetSearch.Proofs.Rounding
/-!
# Settings that make no sense

A file of settings may hold any values. Every setting that spells no number, or none that it may be, has its default: the
greatest number of rows is positive, and so is the usual one, unless it is set to a fraction below one, which leaves no row
at all (`Limits.limits_of_settings`). The tolerance is finite and not negative, and an integer beyond all numbers is the one
value that stops the settings from being loaded (`Limits.load_outcome`) and with them the application from starting
(`Http.Launch.start_outcome`).
-/

namespace FacetSearch

namespace Limits

/-! ## Numbers of rows -/

/-- The exact number that a limit is or spells; a truth value is none. -/
def units? (v : Value) : Option Int :=
  match v with
  | .bool _ => none
  | v => (double v).toOption.join.bind Double.units?

/-- A number above zero that is less than one. -/
def IsFraction (v : Value) : Prop := ∃ u, units? v = some u ∧ 0 < u ∧ u < Double.one

/-- A number above zero without its fraction. -/
def whole (fallback : Int) : Option Int → Int
  | some u => if 0 < u then (u.toNat / Double.one : Nat) else fallback
  | none => fallback

theorem whole_of_double (d : Double) (fallback : Int) :
    (if d.isFinite ∧ d.compareInt? 0 = some .gt then d.truncate?.getD fallback else fallback) =
      whole fallback d.units? := by
  cases d with
  | finite negative m hm =>
    simp only [Double.isFinite, Double.compareInt?, Double.truncate?, Double.units?, whole, Int.zero_mul, true_and,
      Option.some.injEq, Int.compare_eq_gt, Option.getD_some]
    cases negative with
    | false => rfl
    | true =>
      -- a negative number is refused for its sign, before its size is looked at
      have hneg : ¬ 0 < Double.signed true m := by simp only [Double.signed, if_true]; omega
      rw [if_neg hneg, if_neg hneg]
  | infinite negative => rfl
  | nan payload => rfl

theorem units?_of_ne {v : Value} (h : ∀ b, v ≠ .bool b) : units? v = (double v).toOption.join.bind Double.units? := by
  unfold units?
  split
  · exact absurd rfl (h _)
  · rfl

theorem positiveInt_eq (v : Value) (fallback : Int) : positiveInt v fallback = whole fallback (units? v) := by
  unfold positiveInt
  split
  · rfl
  · rename_i hbool
    rw [units?_of_ne hbool]
    generalize double v = number
    rcases number with _ | _ | d
    · rfl
    · rfl
    · exact whole_of_double d fallback

theorem whole_nonneg {fallback : Int} (h : 0 ≤ fallback) (u? : Option Int) : 0 ≤ whole fallback u? := by
  unfold whole
  split
  · split
    · exact Int.natCast_nonneg _
    · exact h
  · exact h

theorem whole_eq_zero {fallback : Int} (h : 0 < fallback) {u? : Option Int} :
    whole fallback u? = 0 ↔ ∃ u, u? = some u ∧ 0 < u ∧ u < Double.one := by
  have hone := Double.intCast_one_pos
  unfold whole
  -- that the unit is positive is all that is needed of it; its value is a power of two that nothing should evaluate
  generalize Double.one = one at *
  cases u? with
  | none => simp [h.ne']
  | some u =>
    by_cases hu : 0 < u
    · simp only [hu, if_true, Int.natCast_eq_zero, Nat.div_eq_zero_iff, Option.some.injEq, exists_eq_left', true_and]
      omega
    · simp [hu, h.ne']

theorem maxLimitOf_pos (config : Value) : 1 ≤ maxLimitOf config := by
  have hnonneg : 0 ≤ positiveInt (setting config "search_max_limit") usualMaximum := by
    rw [positiveInt_eq]
    exact whole_nonneg (by decide) _
  simp only [maxLimitOf]
  split
  · decide
  · omega

/-- Whatever settings hold, the greatest number of rows is positive. There is no usual one exactly if nothing is set as
one; or else it is at most the greatest one, and it is positive unless a fraction below one is set. -/
theorem limits_of_settings (config : Value) :
    1 ≤ maxLimitOf config ∧
      ((config.get? "search_default_limit" = some .null ∧ defaultLimitOf config = none) ∨
        (config.get? "search_default_limit" ≠ some .null ∧ ∃ n, defaultLimitOf config = some n ∧ 0 ≤ n ∧
          n ≤ maxLimitOf config ∧ (n = 0 ↔ IsFraction (setting config "search_default_limit")))) := by
  have hmax := maxLimitOf_pos config
  refine ⟨hmax, ?_⟩
  by_cases hnull : config.get? "search_default_limit" = some .null
  · exact .inl ⟨hnull, Http.defaultLimitOf_eq_none.2 hnull⟩
  · right
    refine ⟨hnull, min (positiveInt (setting config "search_default_limit") usualLimit) (maxLimitOf config), ?_, ?_⟩
    · unfold defaultLimitOf
      split
      · exact absurd ‹_› hnull
      · rfl
    · rw [positiveInt_eq]
      have hnonneg := whole_nonneg (show 0 ≤ usualLimit by decide) (units? (setting config "search_default_limit"))
      have hzero : whole usualLimit (units? (setting config "search_default_limit")) = 0 ↔
          IsFraction (setting config "search_default_limit") := whole_eq_zero (by decide)
      refine ⟨by omega, by omega, Iff.trans ?_ hzero⟩
      omega

/-- A limit of one half. -/
def halfLimit : Value := .object [(.text "search_default_limit", .float (Double.ofDecimal false 5 (-1)))]

/-- The usual number of rows may be zero. -/
theorem defaultLimitOf_half :
    halfLimit.get? "search_default_limit" ≠ some .null ∧ defaultLimitOf halfLimit = some 0 :=
  ⟨nofun, by decide +kernel⟩

/-! ## Tolerances -/

theorem double_int (n : Int) :
    double (.int n) = (Double.ofInt? n).elim (.error (.failure .overflow)) fun d => .ok (some d) := by
  -- the function is a variable, so that it is not evaluated where the cases are compared
  have h : ∀ number?, Double.ofInt? = number? →
      double (.int n) = (number? n).elim (.error (.failure .overflow)) fun d => .ok (some d) := by
    intro number? hnumber
    rw [double.eq_def, hnumber]
    cases hn : number? n <;> simp [hn]
  exact h _ rfl

/-- An integer that is rounded beyond all numbers. -/
def IsHuge (v : Value) : Prop := ∃ n, v = .int n ∧ Double.overflowBound ≤ n.natAbs

theorem double_of_huge {v : Value} (h : IsHuge v) : double v = .error (.failure .overflow) := by
  obtain ⟨n, rfl, hn⟩ := h
  rw [double_int, Double.ofInt?_eq_none_iff.2 hn]
  rfl

theorem double_of_not_huge {v : Value} (h : ¬ IsHuge v) : ∃ d?, double v = .ok d? := by
  cases v
  case int n =>
    cases hn : Double.ofInt? n with
    | none => exact absurd ⟨n, rfl, Double.ofInt?_eq_none_iff.1 hn⟩ h
    | some d =>
      refine ⟨some d, ?_⟩
      rw [double_int, hn]
      rfl
  all_goals exact ⟨_, rfl⟩

/-- A finite number that is not negative: the size of the finite number that a setting is or spells, and the usual
tolerance if there is none. -/
structure IsToleranceOf (v : Value) (t : Double) : Prop where
  nonneg : ∃ u, t.units? = some u ∧ 0 ≤ u
  size : ∀ d, double v = .ok (some d) → d.isFinite = true → t = d.abs
  usual : (∀ d, double v = .ok (some d) → d.isFinite = false) → t = usualTolerance

/-- The tolerance for what a setting spells. -/
def toleranceFor : Option Double → Double
  | some d => if d.isFinite then d.abs else usualTolerance
  | none => usualTolerance

theorem abs_nonneg {d : Double} (h : d.isFinite = true) : ∃ u, d.abs.units? = some u ∧ 0 ≤ u := by
  cases d with
  | finite negative m hm => exact ⟨m, rfl, Int.natCast_nonneg m⟩
  | _ => cases h

theorem usualTolerance_nonneg : ∃ u, usualTolerance.units? = some u ∧ 0 ≤ u := by
  have hsize : usualTolerance.isFinite = true ∧ usualTolerance.abs = usualTolerance := by decide +kernel
  rw [← hsize.2]
  exact abs_nonneg hsize.1

theorem isToleranceOf_for {v : Value} {d? : Option Double} (h : double v = .ok d?) : IsToleranceOf v (toleranceFor d?) := by
  by_cases hfinite : ∃ d, d? = some d ∧ d.isFinite = true
  · obtain ⟨d, rfl, hd⟩ := hfinite
    rw [toleranceFor, if_pos hd]
    refine ⟨abs_nonneg hd, fun e he _ => ?_, fun hnone => ?_⟩
    · obtain rfl := Option.some.inj (Except.ok.inj (h.symm.trans he))
      rfl
    · rw [hnone d h] at hd
      cases hd
  · have husual : toleranceFor d? = usualTolerance := by
      unfold toleranceFor
      split
      · rename_i d
        exact if_neg fun hd => hfinite ⟨d, rfl, hd⟩
      · rfl
    rw [husual]
    refine ⟨usualTolerance_nonneg, fun d hd hdfinite => ?_, fun _ => rfl⟩
    exact absurd ⟨d, Except.ok.inj (h.symm.trans hd), hdfinite⟩ hfinite

/-- The tolerance is made of what a setting spells, whatever is reported about it. -/
theorem toleranceOf_run (config : Value) (records : List LogRecord) :
    ((toleranceOf config).run.run records).1 = (double (setting config "numeric_tolerance")).map toleranceFor := by
  simp only [toleranceOf]
  split
  · rename_i hnull
    have hv : setting config "numeric_tolerance" = .null := by
      cases hv : setting config "numeric_tolerance" <;> first | rfl | (rw [hv] at hnull; cases hnull)
    rw [hv]
    rfl
  · rw [run_bind, run_liftM]
    rcases double (setting config "numeric_tolerance") with e | _ | d
    · rfl
    · rfl
    · cases hfinite : d.isFinite <;> simp [hfinite, toleranceFor, Except.map] <;> rfl

/-! ## Loading and starting -/

/-- The settings that are made of an object, and the tolerance among its entries. -/
structure IsMadeOf (config : Value) (l : Limits) : Prop where
  limits : Http.IsOf l config
  tolerance : IsToleranceOf (setting config "numeric_tolerance") l.tolerance
  entry : (Value.object (entries config l)).get? "NUMERIC_TOLERANCE" = some (.float l.tolerance)

theorem get?_entries (config : Value) (l : Limits) :
    (Value.object (entries config l)).get? "NUMERIC_TOLERANCE" = some (.float l.tolerance) := by
  simp only [entries]
  rw [Value.get?_put_of_ne _ (by decide), Value.get?_put_of_ne _ (by decide), Value.get?_put_self]

theorem load_run (path : String) (content : Option String) (records : List LogRecord) :
    ((load path content).run.run records).1 =
      (double (setting (ofFile path content).1 "numeric_tolerance")).map fun d? =>
        ((ofFile path content).1, ⟨toleranceFor d?, defaultLimitOf (ofFile path content).1,
          maxLimitOf (ofFile path content).1⟩) := by
  have hmodify : (modify (· ++ (ofFile path content).2) : Reporting PUnit).run.run records =
      (.ok ⟨⟩, records ++ (ofFile path content).2) := rfl
  have hrun := toleranceOf_run (ofFile path content).1 (records ++ (ofFile path content).2)
  simp only [load, ofConfig, run_bind, hmodify]
  rcases hs : (toleranceOf (ofFile path content).1).run.run (records ++ (ofFile path content).2) with ⟨r, records'⟩
  rw [hs] at hrun
  obtain rfl : r = _ := hrun
  cases double (setting (ofFile path content).1 "numeric_tolerance") <;> rfl

/-- Settings are loaded, whatever a file holds, unless the tolerance is an integer beyond all numbers. -/
theorem load_outcome (path : String) (content : Option String) :
    (¬ IsHuge (setting (ofFile path content).1 "numeric_tolerance") ∧ ∃ l,
        (∀ records, ((load path content).run.run records).1 = .ok ((ofFile path content).1, l)) ∧
          IsMadeOf (ofFile path content).1 l) ∨
      (IsHuge (setting (ofFile path content).1 "numeric_tolerance") ∧
        ∀ records, ((load path content).run.run records).1 = .error (.failure .overflow)) := by
  have hrun := load_run path content
  by_cases hhuge : IsHuge (setting (ofFile path content).1 "numeric_tolerance")
  · rw [double_of_huge hhuge] at hrun
    exact .inr ⟨hhuge, hrun⟩
  · obtain ⟨d?, hd⟩ := double_of_not_huge hhuge
    rw [hd] at hrun
    exact .inl ⟨hhuge, _, hrun, ⟨rfl, rfl⟩, isToleranceOf_for hd, get?_entries _ _⟩

end Limits

namespace Http.Launch

open Limits

section

variable {l l' : Launch} {o : LogOutput} (hl : l.withEnvFile = .ok l') (ho : l'.startLog = .ok o)

include hl ho

/-- An application is started with the settings that are loaded, and not at all if they are not. -/
theorem start_of_load :
    match ((load l.configPath l.config).run.run []).1 with
    | .ok (_, limits) => ∃ app, l.start = .ok (app, o) ∧ app.limits = limits
    | .error e => l.start = .error e := by
  obtain ⟨environment, -, henvironment⟩ := bind_eq_ok.1 hl
  obtain rfl := Except.ok.inj henvironment
  unfold start
  rw [hl]
  simp only [bind, Except.bind, ho]
  rcases (load l.configPath l.config).run.run [] with ⟨r, records⟩
  cases r with
  | ok loaded => exact ⟨_, rfl, rfl⟩
  | error e => rfl

theorem start_of_load_eq_ok {config : Value} {limits : Limits}
    (h : ((load l.configPath l.config).run.run []).1 = .ok (config, limits)) :
    ∃ app, l.start = .ok (app, o) ∧ app.limits = limits := by
  have hstart := start_of_load hl ho
  rwa [h] at hstart

theorem start_of_load_eq_error {e : Error} (h : ((load l.configPath l.config).run.run []).1 = .error e) :
    l.start = .error e := by
  have hstart := start_of_load hl ho
  rwa [h] at hstart

end

/-- Whatever the file of settings holds, or if there is none: unless the tolerance is an integer beyond all numbers,
settings are made of it with a finite tolerance that is not negative, and the application is started with them wherever its
environment is read and its log is started. With such an integer there are neither settings nor an application. -/
theorem start_outcome (l : Launch) :
    (¬ IsHuge (setting l.settings "numeric_tolerance") ∧ ∃ limits,
        (∀ records, ((load l.configPath l.config).run.run records).1 = .ok (l.settings, limits)) ∧
          IsMadeOf l.settings limits ∧ ∀ l' o, l.withEnvFile = .ok l' → l'.startLog = .ok o →
            ∃ app, l.start = .ok (app, o) ∧ app.limits = limits) ∨
      (IsHuge (setting l.settings "numeric_tolerance") ∧
        (∀ records, ((load l.configPath l.config).run.run records).1 = .error (.failure .overflow)) ∧
          ∀ l' o, l.withEnvFile = .ok l' → l'.startLog = .ok o → l.start = .error (.failure .overflow)) := by
  rcases load_outcome l.configPath l.config with ⟨hhuge, limits, hload, hmade⟩ | ⟨hhuge, hload⟩
  · exact .inl ⟨hhuge, limits, hload, hmade, fun l' o hl ho => start_of_load_eq_ok hl ho (hload [])⟩
  · exact .inr ⟨hhuge, hload, fun l' o hl ho => start_of_load_eq_error hl ho (hload [])⟩

/-! ### A file with a huge tolerance -/

/-- A file that sets the tolerance to an integer of 309 digits. -/
def hugeFile : String :=
  String.ofList ('\x7b' :: ((Json.quote "numeric_tolerance").toList ++ ':' :: ('2' :: List.replicate 308 '0' ++ ['\x7d'])))

theorem isHuge_hugeFile (path : String) : IsHuge (setting (ofFile path (some hugeFile)).1 "numeric_tolerance") := by
  have hname : ∀ c ∈ "numeric_tolerance".toList, c.toNat < 128 := by simp
  have hdigits : ∀ c ∈ '2' :: List.replicate 308 '0', Json.isDigit c = true := by
    intro c hc
    rcases List.mem_cons.1 hc with rfl | hc
    · rfl
    · rw [List.eq_of_mem_replicate hc]
      rfl
  have hlength : ('2' :: List.replicate 308 '0').length ≤ Numeral.maxDigits := by
    rw [List.length_cons, List.length_replicate]
    decide
  have hreturn : '\r' ∉ hugeFile.toList := by
    rw [hugeFile, String.toList_ofList]
    have hquote := Json.notMem_quote hname
    have hzeros : '\r' ∉ List.replicate 308 '0' := fun h => absurd (List.eq_of_mem_replicate h) (by decide)
    generalize (Json.quote "numeric_tolerance").toList = key, List.replicate 308 '0' = zeros at hquote hzeros ⊢
    simp [hquote, hzeros]
  have hread := Json.readUnmarked_digits hname (by decide) hdigits hlength
  have hsize : Double.overflowBound ≤ Numeral.ofDigits (('2' :: List.replicate 308 '0').map fun c => c.toNat - 48) := by
    decide +kernel
  -- the integer is a variable from here on, so that the value of the file is compared without its 309 digits
  generalize Numeral.ofDigits (('2' :: List.replicate 308 '0').map fun c => c.toNat - 48) = n at hread hsize
  refine ⟨n, ?_, hsize⟩
  rw [ofFile, Text.unifyLines_of_notMem hreturn, hugeFile, String.toList_ofList, hread]
  rfl

/-- The start over people with that file. -/
def huge : Launch := { people with config := some hugeFile }

/-- No application is started with that file, although its environment is read and its log is started. -/
theorem start_huge : (∃ l' o, huge.withEnvFile = .ok l' ∧ l'.startLog = .ok o) ∧
    huge.start = .error (.failure .overflow) := by
  have henvironment : huge.withEnvFile = .ok huge := rfl
  have hlog : huge.startLog = .ok {} := rfl
  refine ⟨⟨_, _, henvironment, hlog⟩, start_of_load_eq_error henvironment hlog ?_⟩
  rcases load_outcome huge.configPath huge.config with ⟨hhuge, -⟩ | ⟨-, hload⟩
  · exact absurd (isHuge_hugeFile _) hhuge
  · exact hload []

end Http.Launch

end FacetSearch
