import Mathlib.Order.Monotone.Basic
import TableSync.Settings.Config

/-!
The wait after a failed attempt, for every policy the constructors build: it never shrinks and stays
between the base delay and the cap, and a doubling policy puts its cap where its last retry lands.
-/

namespace TableSync

theorem saturatingMul_le_saturatingMul {d k k' : Nat} (h : k ≤ k') :
    saturatingMul d k ≤ saturatingMul d k' := by
  have larger : d * k ≤ d * k' := Nat.mul_le_mul_left d h
  simp only [saturatingMul]
  omega

theorem le_saturatingMul {d k : Nat} (duration : d ≤ maxDuration) (positive : 0 < k) :
    d ≤ saturatingMul d k :=
  le_min (Nat.le_mul_of_pos_right d positive) duration

@[simp] theorem saturatingMul_zero_left (k : Nat) : saturatingMul 0 k = 0 := by
  simp [saturatingMul]

theorem doubling_pos (a : Nat) : 0 < Nat.pow 2 (min a 16) :=
  Nat.pow_pos (by decide)

theorem doubling_le_doubling {a a' : Nat} (h : a ≤ a') : Nat.pow 2 (min a 16) ≤ Nat.pow 2 (min a' 16) :=
  Nat.pow_le_pow_right (by decide) (by omega)

namespace RetryPolicy

/-- The laws of a policy's waits: the three cases of the wait, and that it never shrinks and
stays between the base delay and the cap. -/
structure BackoffLaws (p : RetryPolicy) : Prop where
  zero : p.baseDelay = 0 → ∀ a, p.backoffDelay a = 0
  fixed : p.backoff = .fixed → ∀ a, p.backoffDelay a = p.baseDelay
  doubling : p.backoff = .exponential → ∀ a,
    p.backoffDelay a = min (saturatingMul p.baseDelay (Nat.pow 2 (min a 16))) p.maxDelay
  monotone : Monotone p.backoffDelay
  bounded : ∀ a, p.baseDelay ≤ p.backoffDelay a ∧ p.backoffDelay a ≤ p.maxDelay

@[simp] theorem make_baseDelay (n b m : Nat) (s : Backoff) : (make n b m s).baseDelay = b := rfl

@[simp] theorem make_maxDelay (n b m : Nat) (s : Backoff) : (make n b m s).maxDelay = max m b := rfl

@[simp] theorem make_backoff (n b m : Nat) (s : Backoff) : (make n b m s).backoff = s := rfl

@[simp] theorem make_maxAttempts (n b m : Nat) (s : Backoff) :
    (make n b m s).maxAttempts = max n 1 := rfl

variable {p : RetryPolicy}

theorem backoffDelay_of_zero (zero : p.baseDelay = 0) (a : Nat) : p.backoffDelay a = 0 := by
  simp [backoffDelay, zero]

theorem backoffDelay_of_fixed (fixed : p.backoff = .fixed) (a : Nat) :
    p.backoffDelay a = p.baseDelay := by
  by_cases zero : p.baseDelay = 0
  · simp [backoffDelay, zero]
  · simp [backoffDelay, zero, fixed]

theorem backoffDelay_of_exponential (doubling : p.backoff = .exponential) (a : Nat) :
    p.backoffDelay a = min (saturatingMul p.baseDelay (Nat.pow 2 (min a 16))) p.maxDelay := by
  by_cases zero : p.baseDelay = 0
  · simp [backoffDelay, zero]
  · simp [backoffDelay, zero, doubling]

theorem backoffDelay_monotone (p : RetryPolicy) : Monotone p.backoffDelay := by
  intro first second later
  cases backoff : p.backoff with
  | fixed => rw [backoffDelay_of_fixed backoff, backoffDelay_of_fixed backoff]
  | exponential =>
    rw [backoffDelay_of_exponential backoff, backoffDelay_of_exponential backoff]
    have doubled := saturatingMul_le_saturatingMul (d := p.baseDelay) (doubling_le_doubling later)
    omega

theorem backoffDelay_le_maxDelay (capped : p.baseDelay ≤ p.maxDelay) (a : Nat) :
    p.backoffDelay a ≤ p.maxDelay := by
  cases backoff : p.backoff with
  | fixed => rw [backoffDelay_of_fixed backoff]; exact capped
  | exponential => rw [backoffDelay_of_exponential backoff]; exact min_le_right _ _

theorem baseDelay_le_backoffDelay (duration : p.baseDelay ≤ maxDuration)
    (capped : p.baseDelay ≤ p.maxDelay) (a : Nat) : p.baseDelay ≤ p.backoffDelay a := by
  cases backoff : p.backoff with
  | fixed => rw [backoffDelay_of_fixed backoff]
  | exponential =>
    rw [backoffDelay_of_exponential backoff]
    exact le_min (le_saturatingMul duration (doubling_pos a)) capped

theorem backoffLaws_of_bounds (duration : p.baseDelay ≤ maxDuration)
    (capped : p.baseDelay ≤ p.maxDelay) : p.BackoffLaws where
  zero := backoffDelay_of_zero
  fixed := backoffDelay_of_fixed
  doubling := backoffDelay_of_exponential
  monotone := backoffDelay_monotone p
  bounded a := ⟨baseDelay_le_backoffDelay duration capped a, backoffDelay_le_maxDelay capped a⟩

theorem make_backoffLaws {b : Nat} (n m : Nat) (s : Backoff) (duration : b ≤ maxDuration) :
    (make n b m s).BackoffLaws :=
  backoffLaws_of_bounds duration (le_max_right m b)

theorem exponential_maxDelay {b : Nat} (n : Nat) (duration : b ≤ maxDuration) :
    (exponential n b).maxDelay = saturatingMul b (Nat.pow 2 (min (n - 2) 16)) :=
  max_eq_left (le_saturatingMul duration (doubling_pos (n - 2)))

theorem exponential_backoffDelay_of_allowsRetry {b a : Nat} (n : Nat) (duration : b ≤ maxDuration)
    (retried : (exponential n b).allowsRetry a = true) :
    (exponential n b).backoffDelay a = saturatingMul b (Nat.pow 2 (min a 16)) := by
  have early : a ≤ n - 2 := by
    have bound := of_decide_eq_true retried
    simp only [exponential, make_maxAttempts] at bound
    omega
  rw [backoffDelay_of_exponential rfl, exponential_maxDelay n duration]
  exact min_eq_left (saturatingMul_le_saturatingMul (doubling_le_doubling early))

theorem exponential_backoffDelay_le_last {b : Nat} (n a : Nat) (duration : b ≤ maxDuration)
    (retries : 2 ≤ n) : (exponential n b).backoffDelay a ≤ (exponential n b).backoffDelay (n - 2) := by
  have last : (exponential n b).allowsRetry (n - 2) = true := by
    apply decide_eq_true
    simp only [exponential, make_maxAttempts]
    omega
  rw [exponential_backoffDelay_of_allowsRetry n duration last, ← exponential_maxDelay n duration]
  exact backoffDelay_le_maxDelay (le_max_right _ _) a

end RetryPolicy

theorem millis_le_maxDuration {ms : Nat} (bounded : ms < Nat.pow 2 64) : millis ms ≤ maxDuration := by
  simp only [millis, maxDuration, nanosPerSecond]
  omega

theorem RetryConfig.policy_backoffLaws {c : RetryConfig} (bounded : c.delayMs < Nat.pow 2 64) :
    c.policy.BackoffLaws := by
  unfold RetryConfig.policy
  split
  · exact RetryPolicy.make_backoffLaws _ _ _ (millis_le_maxDuration bounded)
  · exact RetryPolicy.make_backoffLaws _ _ _ (millis_le_maxDuration bounded)

/-- Every policy built from a duration obeys the laws, and a doubling policy waits exactly the
doubled base before each retry it makes. -/
theorem backoff_delays_double_under_cap (n b m a : Nat) (s : Backoff) (c : RetryConfig)
    (duration : b ≤ maxDuration) (configured : c.delayMs < Nat.pow 2 64) :
    (RetryPolicy.make n b m s).BackoffLaws ∧ c.policy.BackoffLaws ∧
      ((RetryPolicy.exponential n b).allowsRetry a = true →
        (RetryPolicy.exponential n b).backoffDelay a = saturatingMul b (Nat.pow 2 (min a 16))) ∧
      (2 ≤ n → (RetryPolicy.exponential n b).backoffDelay a ≤
        (RetryPolicy.exponential n b).backoffDelay (n - 2)) :=
  ⟨RetryPolicy.make_backoffLaws n m s duration, RetryConfig.policy_backoffLaws configured,
    RetryPolicy.exponential_backoffDelay_of_allowsRetry n duration,
    RetryPolicy.exponential_backoffDelay_le_last n a duration⟩

theorem page_fetch_fourth_retry_waits_sixteen_periods :
    seconds 120 ≤ maxDuration ∧ RetrySettings.defaults.fetch.delayMs < Nat.pow 2 64 ∧
      ((RetryPolicy.make 5 (seconds 120) 0 .exponential).BackoffLaws ∧
        RetrySettings.defaults.fetch.policy.BackoffLaws ∧
        ((RetryPolicy.exponential 5 (seconds 120)).allowsRetry 3 = true →
          (RetryPolicy.exponential 5 (seconds 120)).backoffDelay 3 =
            saturatingMul (seconds 120) (Nat.pow 2 (min 3 16))) ∧
        (2 ≤ 5 → (RetryPolicy.exponential 5 (seconds 120)).backoffDelay 3 ≤
          (RetryPolicy.exponential 5 (seconds 120)).backoffDelay (5 - 2))) :=
  have duration : seconds 120 ≤ maxDuration := by decide
  have configured : RetrySettings.defaults.fetch.delayMs < Nat.pow 2 64 := by decide
  ⟨duration, configured,
    backoff_delays_double_under_cap 5 (seconds 120) 0 3 .exponential RetrySettings.defaults.fetch
      duration configured⟩

end TableSync
