import MctierSignaling.State
import MctierSignaling.Lib.FixedWindow

/-!
# The budgets of a connection

A connection's messages are limited to 120 in ten seconds, and the frames to it to 64, and to a
mebibyte, in one second. Both limiters count in fixed windows, each of which starts with the first
call that comes late enough (`budgets_bounded`).
-/

namespace MctierSignaling

open FixedWindow

/-! ## The outbound budget -/

/-- The limits of a connection's outbound budget. -/
def outboundLimits : Limits :=
  ⟨secs OUTBOUND_BUDGET_WINDOW_SECS, MAX_OUTBOUND_FRAMES_PER_WINDOW, MAX_OUTBOUND_BYTES_PER_WINDOW⟩

/-- The counters of an outbound budget. -/
def OutboundBudget.counters (b : OutboundBudget) : Counters := ⟨b.windowStarted, b.frames, b.bytes⟩

/-- `OutboundBudget::allow` is a budget of a fixed window. -/
theorem OutboundBudget.allow_eq (b : OutboundBudget) (now bytes : Nat) :
    (b.allow now bytes).1.counters = b.counters.after outboundLimits ⟨now, bytes⟩ ∧
      (b.allow now bytes).2 = b.counters.admits outboundLimits ⟨now, bytes⟩ := by
  have hmax : MAX_OUTBOUND_BYTES_PER_WINDOW < 2 ^ 64 - 1 := by decide
  -- in either case of the window, the sum saturates only where it is over the limit anyway
  have hroom : ∀ c : OutboundBudget, b.counters.at outboundLimits ⟨now, bytes⟩ = c.counters →
      ((if bytes > MAX_OUTBOUND_BYTES_PER_WINDOW ∨ c.frames ≥ MAX_OUTBOUND_FRAMES_PER_WINDOW ∨
          min (c.bytes + bytes) (2 ^ 64 - 1) > MAX_OUTBOUND_BYTES_PER_WINDOW then (c, false)
        else ({ c with frames := c.frames + 1, bytes := c.bytes + bytes }, true)).1.counters =
          b.counters.after outboundLimits ⟨now, bytes⟩ ∧
        (if bytes > MAX_OUTBOUND_BYTES_PER_WINDOW ∨ c.frames ≥ MAX_OUTBOUND_FRAMES_PER_WINDOW ∨
          min (c.bytes + bytes) (2 ^ 64 - 1) > MAX_OUTBOUND_BYTES_PER_WINDOW then (c, false)
        else ({ c with frames := c.frames + 1, bytes := c.bytes + bytes }, true)).2 =
          b.counters.admits outboundLimits ⟨now, bytes⟩) := by
    intro c hc
    have hadmits : b.counters.admits outboundLimits ⟨now, bytes⟩ = true ↔
        c.frames + 1 ≤ MAX_OUTBOUND_FRAMES_PER_WINDOW ∧
          c.bytes + bytes ≤ MAX_OUTBOUND_BYTES_PER_WINDOW := by
      rw [Counters.admits_iff, hc]
      rfl
    split
    · next hover =>
      have hrefused : b.counters.admits outboundLimits ⟨now, bytes⟩ = false := by
        refine Bool.eq_false_iff.2 fun h => ?_
        have := hadmits.1 h
        omega
      refine ⟨?_, hrefused.symm⟩
      rw [Counters.after, hrefused]
      exact hc.symm
    · next hfits =>
      have hadmitted : b.counters.admits outboundLimits ⟨now, bytes⟩ = true :=
        hadmits.2 (by omega)
      refine ⟨?_, hadmitted.symm⟩
      rw [Counters.after_of_admits hadmitted, hc]
      rfl
  unfold OutboundBudget.allow
  dsimp only
  by_cases hlate : now - b.windowStarted ≥ secs OUTBOUND_BUDGET_WINDOW_SECS
  · rw [if_pos hlate]
    exact hroom ⟨now, 0, 0⟩ (if_pos hlate)
  · rw [if_neg hlate]
    exact hroom b (if_neg hlate)

/-- The outbound budget as a limiter of frames, each with its time and its length. -/
def outboundLimiter : Limiter OutboundBudget Event where
  allow b e := b.allow e.time e.size
  counters := OutboundBudget.counters
  event := id

theorem outboundLimiter_implements : outboundLimiter.Implements outboundLimits where
  after b e := (b.allow_eq e.time e.size).1
  admits b e := (b.allow_eq e.time e.size).2

/-! ## The message rate -/

/-- The limits of a connection's messages. -/
def messageLimits : Limits := ⟨secs MESSAGE_RATE_WINDOW_SECS, MAX_MESSAGES_PER_WINDOW, 0⟩

/-- The counters of a message rate limiter. -/
def MessageRateLimiter.counters (r : MessageRateLimiter) : Counters :=
  ⟨r.windowStarted, r.messages, 0⟩

/-- The message rate limiter as a limiter of times. -/
def messageLimiter : Limiter MessageRateLimiter Nat where
  allow := MessageRateLimiter.allow
  counters := MessageRateLimiter.counters
  event now := ⟨now, 0⟩

theorem messageLimiter_implements : messageLimiter.Implements messageLimits := by
  have hspec : ∀ (r : MessageRateLimiter) (now : Nat),
      (r.allow now).1.counters = r.counters.after messageLimits ⟨now, 0⟩ ∧
        (r.allow now).2 = r.counters.admits messageLimits ⟨now, 0⟩ := by
    intro r now
    -- the limiter first moves to the window of the call
    obtain ⟨r', hr', hat⟩ : ∃ r' : MessageRateLimiter,
        (if now - r.windowStarted ≥ secs MESSAGE_RATE_WINDOW_SECS then ⟨now, 0⟩ else r) = r' ∧
          r.counters.at messageLimits ⟨now, 0⟩ = r'.counters := by
      by_cases hlate : now - r.windowStarted ≥ secs MESSAGE_RATE_WINDOW_SECS
      · exact ⟨⟨now, 0⟩, if_pos hlate, if_pos hlate⟩
      · exact ⟨r, if_neg hlate, if_neg hlate⟩
    unfold MessageRateLimiter.allow
    simp only [hr']
    exact Counters.of_count (L := messageLimits) hat (Nat.zero_le 0) rfl
  exact ⟨fun r now => (hspec r now).1, fun r now => (hspec r now).2⟩

/-- **Both limiters are bounded in every sequence of calls**, and their counters do not overflow. -/
theorem budgets_bounded (now : Nat) :
    (∀ calls, Ordered now calls →
      outboundLimiter.Bounded outboundLimits (.new now) calls) ∧
    (∀ times, (now :: times).Pairwise (· ≤ ·) →
      messageLimiter.Bounded messageLimits (.new now) times) ∧
    outboundLimits.count < 2 ^ 32 ∧ outboundLimits.total < 2 ^ 64 ∧
    messageLimits.count < 2 ^ 32 := by
  refine ⟨fun calls hcalls => ?_, fun times htimes => ?_, by decide, by decide, by decide⟩
  · have hfresh : outboundLimiter.counters (.new now) = ⟨now, 0, 0⟩ := rfl
    exact outboundLimiter_implements.bounded (by decide) (by decide) hfresh
      (by simpa [outboundLimiter] using hcalls)
  · have hfresh : messageLimiter.counters (.new now) = ⟨now, 0, 0⟩ := rfl
    refine messageLimiter_implements.bounded (by decide) (by decide) hfresh ?_
    simpa [Ordered, messageLimiter, List.map_map, Function.comp_def] using htimes

theorem budgets_bounded_example :
    outboundLimiter.Bounded outboundLimits (.new 0) [⟨0, 100⟩, ⟨secs 1, 2 ^ 20⟩] ∧
      messageLimiter.Bounded messageLimits (.new 0) [0, 1, secs 10] :=
  ⟨(budgets_bounded 0).1 _ (by simp [Ordered]), (budgets_bounded 0).2.1 _ (by decide)⟩

end MctierSignaling
