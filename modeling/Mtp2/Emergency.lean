import Mtp2.Alignment

/-!
# MTP2 — emergency alignment of two links

Every SIE a proving link hears starts its proving period again, and a link that proves in
emergency mode sends nothing but SIE. Two links in lockstep therefore hold each other in Proving
for ever, as soon as one of them aligns in emergency mode: the round trip is shorter than T4(e).

* **`Aligning.proves`** — a round that brings word of the emergency starts the proving period;
* **`emergency_never_aligns`** — both ends prove for ever, and nothing is raised.
-/

namespace Mtp2

/-- **A round that brings word of the emergency starts the proving period.** -/
theorem Aligning.proves {c : Mtp2Config} {s : Mtp2State} {e e' : Bool} {age : ℕ} {x : Party}
    (h : Aligning c s e age x) (hs : s = .Aligned ∨ s = .Proving ∧ e' = true)
    (he : (e || e') = true) (h4 : 2 ≤ c.t4ProvingEmergency.toNat) (header : SuHeader) :
    Aligning c .Proving true 1 (x.turn (some (.lssu header (modeStatus e')))) := by
  have hproves := (h.call (.inr rfl)).hears_status hs header
  rw [he] at hproves
  -- one tick does not complete T4(e)
  refine hproves.tick (by simp) (by simp) (fun _ => ?_) (by simp)
  show 0 + 1 < max 1 c.t4ProvingEmergency.toNat
  omega

/-- An exchange in which an end aligns in emergency mode, and the proving periods of that mode last
two ticks at least. -/
structure Urgent (ca cb : Mtp2Config) (calls : ℕ → List Op × List Op) (k : ℕ) : Prop
    extends Startup ca cb calls k where
  emergency : (ca.emergency || cb.emergency) = true
  t4A : 2 ≤ ca.t4ProvingEmergency.toNat
  t4B : 2 ≤ cb.t4ProvingEmergency.toNat

namespace Urgent

variable {ca cb : Mtp2Config} {calls : ℕ → List Op × List Op} {k n m : ℕ} {p : Lockstep}
  {sa sb : Mtp2State} {ea eb : Bool} {ageA ageB : ℕ}

/-- Each end has the other start its proving period. -/
theorem round (h : Urgent ca cb calls k) (hsa : sa = .Aligned ∨ sa = .Proving ∧ eb = true)
    (hsb : sb = .Aligned ∨ sb = .Proving ∧ ea = true) (he : (ea || eb) = true)
    (ha : Aligning ca sa ea ageA p.a) (hb : Aligning cb sb eb ageB p.b) :
    Aligning ca .Proving true 1 (p.round (calls n)).a ∧
      Aligning cb .Proving true 1 (p.round (calls n)).b := by
  have ha' := ha.calls (h.ordinaryA n)
  have hb' := hb.calls (h.ordinaryB n)
  refine ⟨?_, ?_⟩
  · show Aligning ca .Proving true 1 ((p.a.run (calls n).1).turn _)
    rw [show (p.call (calls n)).b.link.pollTransmit.1 = _ from
      hb'.sends.2.1 (hsb.imp_right And.left)]
    exact ha'.proves hsa he h.t4A _
  · show Aligning cb .Proving true 1 ((p.b.run (calls n).2).turn _)
    rw [show (p.call (calls n)).a.link.pollTransmit.1 = _ from
      ha'.sends.2.1 (hsa.imp_right And.left)]
    exact hb'.proves hsb (Bool.or_comm _ _ ▸ he) h.t4B _

/-- **From then on each end has the other start its proving period over and over.** -/
theorem trapped (h : Urgent ca cb calls k) (ha : Down ca p.a) (hb : Down cb p.b) (hm : 2 ≤ m) :
    Aligning ca .Proving true 1 (p.after calls (k + m)).a ∧
      Aligning cb .Proving true 1 (p.after calls (k + m)).b := by
  induction m, hm using Nat.le_induction with
  | base =>
    obtain ⟨ha', hb'⟩ := h.aligned ha hb
    exact h.round (.inl rfl) (.inl rfl) h.emergency ha' hb'
  | succ m hm ih => exact h.round (.inr ⟨rfl, rfl⟩) (.inr ⟨rfl, rfl⟩) rfl ih.1 ih.2

end Urgent

/-- **Emergency alignment never completes in lockstep.** Two links, started `k` rounds apart, at
least one of them in emergency mode, with T4(e) two ticks or more, T3 too, and `k` within T2 of the
first: from the second round after the start of the later one both are in Proving, in every round,
and nothing is ever raised. -/
theorem emergency_never_aligns {ca cb : Mtp2Config} {calls : ℕ → List Op × List Op} {k : ℕ}
    (h : Urgent ca cb calls k) :
    let p := (Lockstep.fresh ca cb).after calls
    ∀ n, ((p n).a.log = [] ∧ (p n).b.log = []) ∧
      (k + 2 ≤ n → (p n).a.link.state = .Proving ∧ (p n).b.link.state = .Proving) := by
  intro p n
  have hda : Down ca (Lockstep.fresh ca cb).a := down_fresh ca
  have hdb : Down cb (Lockstep.fresh ca cb).b := down_fresh cb
  by_cases hk : n ≤ k
  · obtain ⟨ha, hb⟩ := h.waiting hda hdb hk
    exact ⟨⟨ha.elim (fun h => h.2.log) Aligning.log, hb.log⟩, by omega⟩
  obtain ⟨m, rfl⟩ := Nat.exists_eq_add_of_le (Nat.le_of_not_le hk)
  rcases Nat.lt_or_ge m 2 with hm | hm
  · obtain rfl : m = 1 := by omega
    obtain ⟨ha, hb⟩ := h.aligned hda hdb
    exact ⟨⟨ha.log, hb.log⟩, by omega⟩
  · obtain ⟨ha, hb⟩ := h.trapped hda hdb hm
    exact ⟨⟨ha.log, hb.log⟩, fun _ => ⟨ha.state, hb.state⟩⟩

/-- The default configuration, with emergency asked for at one end. -/
theorem emergency_never_aligns_default :
    let calls : ℕ → List Op × List Op := fun n => if n = 0 then ([.start], [.start]) else ([], [])
    let p := (Lockstep.fresh { emergency := true } {}).after calls
    ∀ n, ((p n).a.log = [] ∧ (p n).b.log = []) ∧
      (0 + 2 ≤ n → (p n).a.link.state = .Proving ∧ (p n).b.link.state = .Proving) := by
  intro calls
  have hordinary (n : ℕ) : (∀ op ∈ (calls n).1, op.ordinary = true) ∧
      ∀ op ∈ (calls n).2, op.ordinary = true := by
    by_cases hn : n = 0 <;> simp [calls, hn, Op.ordinary]
  exact emergency_never_aligns {
    ordinaryA := fun n => (hordinary n).1
    ordinaryB := fun n => (hordinary n).2
    startA := by decide
    startB := by decide
    waitsB := by simp
    t2 := by decide
    t3A := by decide
    t3B := by decide
    emergency := rfl
    t4A := by decide
    t4B := by decide }

end Mtp2
