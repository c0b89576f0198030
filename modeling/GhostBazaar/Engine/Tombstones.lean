import GhostBazaar.Retention
import GhostBazaar.Engine.EnvelopeReplay

/-! The tombstones of envelope ids, which a sweep scans only when the cached earliest expiry has
passed. They are those that a full scan at every sweep leaves. -/
namespace GhostBazaar.Engine
open Js Retention

inductive TombstoneCall where
  | use (envelopeId : JsString) (retentionMs : ℤ)
  | sweep

/-- What a call does to the ids, with the time at which it is made. -/
def TombstoneCall.entry : ℤ × TombstoneCall → Retention.Entry JsString ℤ
  | (now, .use envelopeId retentionMs) => .record envelopeId (now + retentionMs)
  | (now, .sweep) => .scan now

namespace EnvelopeTombstones

def call (t : EnvelopeTombstones) : ℤ × TombstoneCall → EnvelopeTombstones
  | (now, .use envelopeId retentionMs) => t.use now envelopeId retentionMs
  | (now, .sweep) => t.sweep now

def after (calls : List (ℤ × TombstoneCall)) : EnvelopeTombstones := calls.foldl call empty

/-- The store keeps what full scans keep, and the cached expiry is a lower bound of it. -/
structure Refines (t : EnvelopeTombstones) (kept : JsString → Option ℤ) : Prop where
  latest : ∀ id, t.tombstones.get? id = kept id
  bound : Bounds t.nextExpiry kept

theorem refines_empty : empty.Refines fun _ => none where
  latest _ := rfl
  bound _ _ h := absurd h (Option.not_mem_none _)

variable {t : EnvelopeTombstones} {kept : JsString → Option ℤ}

/-- An id that is used again may leave the cached expiry too early, never too late. -/
theorem Refines.use (h : t.Refines kept) (now : ℤ) (id : JsString) (retentionMs : ℤ) :
    (t.use now id retentionMs).Refines (enter kept (.record id (now + retentionMs))) where
  latest other := by
    rw [get?_use, h.latest]
    exact (Function.update_apply kept id _ other).symm
  bound := by
    have hrecord := h.bound.record id (now + retentionMs)
    cases hnext : t.nextExpiry with
    | none => simpa [EnvelopeTombstones.use, hnext] using hrecord
    | some next => simpa [EnvelopeTombstones.use, hnext] using hrecord

/-- The earliest of the kept expiries is found by the scan itself. -/
theorem bounds_min? (m : JsMap JsString ℤ) : Bounds (m.entries.map Prod.snd).min? m.get? := by
  intro id expiry hget
  have hmem : expiry ∈ m.entries.map Prod.snd := List.mem_map_of_mem (m.get?_eq_some_iff.mp hget)
  obtain ⟨least, hleast⟩ := Option.isSome_iff_exists.mp (List.isSome_min?_of_mem hmem)
  exact ⟨least, hleast, (List.min?_eq_some_iff.mp hleast).2 expiry hmem⟩

theorem Refines.sweep (h : t.Refines kept) (now : ℤ) :
    (t.sweep now).Refines (enter kept (.scan now)) := by
  unfold EnvelopeTombstones.sweep
  split_ifs with hnext
  · -- the scan that is skipped would have deleted nothing
    rw [h.bound.scan_eq (by simpa [Option.all_eq_true] using hnext)]
    exact h
  · have hlatest : ∀ id, (t.tombstones.filter fun _ expiry => decide (¬ expiry ≤ now)).get? id =
        enter kept (.scan now) id := by
      intro id
      rw [JsMap.get?_filter, h.latest]
      simp [enter]
    refine ⟨hlatest, ?_⟩
    have hbound := bounds_min? (t.tombstones.filter fun _ expiry => decide (¬ expiry ≤ now))
    rwa [funext hlatest] at hbound

theorem Refines.call (h : t.Refines kept) (call : ℤ × TombstoneCall) :
    (t.call call).Refines (enter kept (TombstoneCall.entry call)) := by
  obtain ⟨now, call⟩ := call
  cases call with
  | use id retentionMs => exact h.use now id retentionMs
  | sweep => exact h.sweep now

theorem refines_after (calls : List (ℤ × TombstoneCall)) :
    (after calls).Refines (replay (calls.map TombstoneCall.entry)) := by
  induction calls using List.reverseRecOn with
  | nil => exact refines_empty
  | append_singleton calls call ih =>
    rw [List.map_append, List.map_singleton, replay_append_singleton]
    unfold after
    rw [List.foldl_append]
    exact ih.call call

/-- After any calls, at any times, the cached expiry is a lower bound of the stored ones, the used
ids are those whose latest expiry stands after every later sweep, and a sweep leaves the ids that a
full scan leaves. -/
theorem sweep_full_scan (calls : List (ℤ × TombstoneCall)) :
    (∀ id expiry, (after calls).tombstones.get? id = some expiry →
      ∃ next, (after calls).nextExpiry = some next ∧ next ≤ expiry) ∧
    (∀ id, (after calls).isUsed id = true ↔
      ∃ expiry, Outlasts (calls.map TombstoneCall.entry) id expiry) ∧
    ∀ now id, ((after calls).sweep now).isUsed id = true ↔
      ∃ expiry, replay (calls.map TombstoneCall.entry) id = some expiry ∧ now < expiry := by
  have hrefines := refines_after calls
  refine ⟨?_, ?_, ?_⟩
  · intro id expiry hget
    rw [hrefines.latest] at hget
    exact hrefines.bound id expiry hget
  · intro id
    unfold isUsed
    rw [hrefines.latest, Option.isSome_iff_exists]
    simp only [replay_eq_some_iff]
  · intro now id
    unfold isUsed
    rw [(hrefines.sweep now).latest, Option.isSome_iff_exists]
    simp [enter, Option.filter_eq_some_iff]

/-- The second use makes the cached expiry too early, and the next sweep repairs it. -/
example : let t := after [(0, .use (js "e") 10), (1, .use (js "e") 100)]
    t.nextExpiry = some 10 ∧ (t.sweep 50).nextExpiry = some 101 ∧
      (t.sweep 50).isUsed (js "e") = true := by decide

end EnvelopeTombstones

end GhostBazaar.Engine
