import StationBench.Proofs.History
/-!
# The order of random times

A test draws a random time for each step that asks for one, and for no other. The draws of a test
are the first times of its seed, in order, wherever the steps stand that draw them and whatever
comes between (`draws_in_order`). Nothing of this depends on how a random time is made, so that a
run is followed here with any source of random times in place of the range
(`Trace.playsFrom`); the runs of tests are those whose source is the range.
-/
namespace StationBench

/-! ## Random times from any source -/

/-- Where random times come from: a time for each seed and each number of draws before. -/
abbrev TimeSource := UInt64 → UInt64 → Millis

namespace Draws

/-- Draws one more time from a source. -/
def nextFrom (source : TimeSource) (d : Draws) : Millis × Draws :=
  let t := source d.seed (.ofNat d.drawn.length)
  (t, { d with drawn := d.drawn ++ [t] })

/-- The first draws of a seed from a source. -/
def first (source : TimeSource) (seed : UInt64) (count : Nat) : Draws :=
  { seed, drawn := (List.range count).map fun j => source seed (.ofNat j) }

end Draws

/-- Executes a step, where random times come from a source. -/
def Bench.executeFrom (source : TimeSource) (b : Bench) (rig : Rig) (s : Step) : Outcome :=
  if s.drawsTime then
    let (ms, draws) := b.draws.nextFrom source
    (.ok (.timeDrawn ms), { b with draws, station := b.station.recordTime ms })
  else b.execute rig s

/-- An executed step, and the bench before and after it. -/
structure Play where
  step : Step
  before : Bench
  result : Except StepFault Note
  after : Bench

namespace Play

/-- Whether the step draws a random time. -/
def draws (p : Play) : Bool := p.step.drawsTime

/-- The bench after some steps, if the bench was `b` before them. -/
def benchAfter (b : Bench) (past : List Play) : Bench := (past.getLast?.map Play.after).getD b

end Play

namespace Trace

/-- The steps executed from the one at `index` on, where random times come from a source. -/
def playsFrom (source : TimeSource) (rig : Rig) (flow : Flow) :
    (index : Nat) → List Step → Bench → List Play
  | _, [], _ => []
  | index, step :: rest, b =>
    let before := flow.ready index b
    let outcome := before.executeFrom source rig step
    let play : Play := ⟨step, before, outcome.1, outcome.2⟩
    if flow.stops ⟨index, step, play.result⟩ then [play]
    else play :: playsFrom source rig flow (index + 1) rest play.after

end Trace

/-! ## The range as a source -/

/-- A turn, whatever its place in the test. -/
def Turn.play {rig : Rig} (t : Turn rig) : Play := ⟨t.step, t.before, t.result, t.after⟩

theorem Bench.executeFrom_draw (b : Bench) (rig : Rig) (s : Step) :
    b.executeFrom rig.range.draw rig s = b.execute rig s := by
  cases s with
  | solveTime ms => cases ms <;> rfl
  | _ => rfl

namespace Trace

/-- **The runs of tests** are those whose random times come from the range of the rig. -/
theorem playsFrom_draw (rig : Rig) (flow : Flow) (i : Nat) (steps : List Step) (b : Bench) :
    playsFrom rig.range.draw rig flow i steps b = (turns rig flow i steps b).map Turn.play := by
  induction steps generalizing i b with
  | nil => rfl
  | cons s rest ih =>
    rw [playsFrom]
    simp only [Bench.executeFrom_draw, ih]
    by_cases h : flow.stops (turn rig flow i s b).1 = true
    · rw [turns_cons_of_stops h]
      exact if_pos h
    · rw [turns_cons_of_not_stops h]
      exact if_neg h

theorem benchAfter_map_play {rig : Rig} (b : Bench) (past : List (Turn rig)) :
    Play.benchAfter b (past.map Turn.play) = benchAfter b past := by
  unfold Play.benchAfter benchAfter
  rw [List.getLast?_map, Option.map_map]
  rfl

end Trace

/-! ## One step -/

theorem Draws.nextFrom_first (source : TimeSource) (seed : UInt64) (count : Nat) :
    (first source seed count).nextFrom source =
      (source seed (.ofNat count), first source seed (count + 1)) := by
  simp [nextFrom, first, List.range_succ]

namespace Bench

variable (source : TimeSource) (b : Bench) (rig : Rig)

theorem executeFrom_of_drawsTime {s : Step} (h : s.drawsTime = true) :
    b.executeFrom source rig s =
      (.ok (.timeDrawn (b.draws.nextFrom source).1),
        { b with
          draws := (b.draws.nextFrom source).2
          station := b.station.recordTime (b.draws.nextFrom source).1 }) :=
  if_pos h

/-- Only a step that draws a time moves the draws on. -/
theorem draws_executeFrom (s : Step) :
    (b.executeFrom source rig s).2.draws =
      if s.drawsTime = true then (b.draws.nextFrom source).2 else b.draws := by
  by_cases h : s.drawsTime = true
  · rw [executeFrom_of_drawsTime source b rig h, if_pos h]
  · rw [executeFrom, if_neg h, execute_draws, if_neg h, if_neg h]

end Bench

/-! ## All steps -/

namespace Play

variable (b : Bench) (p : Play) (past : List Play)

@[simp] theorem benchAfter_append_singleton : benchAfter b (past ++ [p]) = p.after := by
  simp [benchAfter]

theorem benchAfter_cons : benchAfter b (p :: past) = benchAfter p.after past := by
  cases past with
  | nil => rfl
  | cons p' rest => simp [benchAfter, List.getLast?_eq_some_getLast]

end Play

namespace Trace

variable {source : TimeSource} {rig : Rig} {flow : Flow} {i : Nat} {steps : List Step} {b : Bench}

/-- Every step is executed on the bench after the steps before it, once it has waited. -/
theorem executed_playsFrom {past : List Play} {p : Play}
    (h : past ++ [p] <+: playsFrom source rig flow i steps b) :
    (∃ j, p.before = flow.ready j (Play.benchAfter b past)) ∧
      p.before.executeFrom source rig p.step = (p.result, p.after) := by
  induction steps generalizing i b past with
  | nil => simp [playsFrom] at h
  | cons s rest ih =>
    -- whether or not the first step ends the run, the others are among those of going on
    have hcons : playsFrom source rig flow i (s :: rest) b <+:
        ⟨s, flow.ready i b, ((flow.ready i b).executeFrom source rig s).1,
          ((flow.ready i b).executeFrom source rig s).2⟩ ::
          playsFrom source rig flow (i + 1) rest ((flow.ready i b).executeFrom source rig s).2 := by
      rw [playsFrom]
      dsimp only
      split
      · simp
      · exact List.prefix_rfl
    cases past with
    | nil =>
      obtain ⟨rfl, -⟩ := List.cons_prefix_cons.1 (h.trans hcons)
      exact ⟨⟨i, rfl⟩, rfl⟩
    | cons p' past =>
      obtain ⟨rfl, hrest⟩ := List.cons_prefix_cons.1 (h.trans hcons)
      rw [Play.benchAfter_cons]
      exact ih hrest

/-- Waiting for its turn does not change the draws. -/
theorem draws_before {past : List Play} {p : Play}
    (h : past ++ [p] <+: playsFrom source rig flow i steps b) :
    p.before.draws = (Play.benchAfter b past).draws := by
  obtain ⟨⟨j, hj⟩, -⟩ := executed_playsFrom h
  rw [hj, Flow.ready]
  split <;> rfl

/-- **The draws at every point** of a run are the first ones of the seed, one for each step so far
that draws a time. -/
theorem draws_benchAfter {seed : UInt64} (hb : b.draws = .first source seed 0) {past : List Play}
    (h : past <+: playsFrom source rig flow i steps b) :
    (Play.benchAfter b past).draws = .first source seed (past.countP Play.draws) := by
  induction past using List.reverseRecOn with
  | nil => exact hb
  | append_singleton past p ih =>
    have hbefore := (draws_before h).trans (ih ((List.prefix_append _ _).trans h))
    have hafter := p.before.draws_executeFrom source rig p.step
    rw [(executed_playsFrom h).2, hbefore, Draws.nextFrom_first] at hafter
    rw [Play.benchAfter_append_singleton, hafter, List.countP_append, List.countP_singleton]
    unfold Play.draws
    split <;> rfl

end Trace

/-! ## The range of random times -/

namespace TimeRange

variable (r : TimeRange)

/-- The width of a range of all times wraps around to zero. -/
theorem toNat_width : r.width.toNat = (r.greatest.toNat - r.least.toNat + 1) % UInt64.size := by
  rw [width, UInt64.toNat_add, UInt64.toNat_sub_of_le _ _ r.least_le_greatest]
  rfl

theorem bounds_of_width_eq_zero (h : r.width = 0) (t : Millis) : r.least ≤ t ∧ t ≤ r.greatest := by
  have hwidth := r.toNat_width
  unfold UInt64.size at hwidth
  have hgreatest := r.greatest.toNat_lt
  have ht := t.toNat_lt
  have hzero : r.width.toNat = 0 := congrArg UInt64.toNat h
  rw [UInt64.le_iff_toNat_le, UInt64.le_iff_toNat_le]
  omega

/-- The high half of a product with the width counts less than the width. -/
theorem high_lt_width (h : r.width ≠ 0) (word : UInt64) :
    word.toNat * r.width.toNat / UInt64.size < r.width.toNat := by
  have hpos : 0 < r.width.toNat := Nat.pos_of_ne_zero fun h0 => h (UInt64.toNat_inj.1 h0)
  exact Nat.div_lt_of_lt_mul (Nat.mul_lt_mul_of_pos_right word.toNat_lt hpos)

/-- Counting less than the width from the least time on, a sum of words does not wrap around. -/
theorem toNat_least_add {n : Nat} (h : n < r.width.toNat) :
    (r.least + .ofNat n).toNat = r.least.toNat + n := by
  have hle := UInt64.le_iff_toNat_le.1 r.least_le_greatest
  have hgreatest := r.greatest.toNat_lt
  have hwidth := r.toNat_width
  unfold UInt64.size at hwidth
  rw [UInt64.toNat_add, UInt64.toNat_ofNat_of_lt' (Nat.lt_trans h r.width.toNat_lt)]
  exact Nat.mod_eq_of_lt (by omega)

/-- A word makes a time that is less than the width of the range away from the least one. -/
theorem bounds_of_width_ne_zero (h : r.width ≠ 0) (word : UInt64) :
    r.least ≤ r.least + .ofNat (word.toNat * r.width.toNat / UInt64.size) ∧
      r.least + .ofNat (word.toNat * r.width.toNat / UInt64.size) ≤ r.greatest := by
  have hle := UInt64.le_iff_toNat_le.1 r.least_le_greatest
  have hgreatest := r.greatest.toNat_lt
  have hwidth := r.toNat_width
  have hquotient := r.high_lt_width h word
  generalize word.toNat * r.width.toNat / UInt64.size = quotient at hquotient ⊢
  unfold UInt64.size at hwidth
  rw [UInt64.le_iff_toNat_le, UInt64.le_iff_toNat_le, r.toNat_least_add hquotient]
  omega

theorem bounds_of_pick {word : UInt64} {t : Millis} (h : r.pick word = some t) :
    r.least ≤ t ∧ t ≤ r.greatest := by
  unfold pick at h
  split at h
  · next hzero => exact r.bounds_of_width_eq_zero hzero t
  · next hne =>
    dsimp only at h
    split at h
    · obtain rfl := Option.some.inj h
      exact r.bounds_of_width_ne_zero hne word
    · cases h

theorem bounds_firstPick (seed stream : UInt64) (count : Nat) (counter : UInt64) :
    r.least ≤ r.firstPick seed stream count counter ∧
      r.firstPick seed stream count counter ≤ r.greatest := by
  induction count generalizing counter with
  | zero => exact ⟨UInt64.le_refl _, r.least_le_greatest⟩
  | succ count ih =>
    rw [firstPick]
    cases h : (Keystream.words seed stream counter).findSome? r.pick with
    | none => exact ih _
    | some t =>
      obtain ⟨word, -, hpick⟩ := List.exists_of_findSome?_eq_some h
      exact r.bounds_of_pick hpick

/-- A random time is in its range. -/
theorem bounds_draw (seed call : UInt64) :
    r.least ≤ r.draw seed call ∧ r.draw seed call ≤ r.greatest :=
  r.bounds_firstPick seed call 1024 0

/-- The bounds of a range may be given in either order. -/
theorem between_eq (a b : Millis) :
    (between a b).least = min a b ∧ (between a b).greatest = max a b := by
  unfold between
  rw [show min a b = if a ≤ b then a else b from rfl,
    show max a b = if a ≤ b then b else a from rfl]
  split <;> exact ⟨rfl, rfl⟩

end TimeRange

/-! ## The order of draws -/

/-- Random times in a run that starts before the first draw of a seed. -/
structure DrawnInOrder (source : TimeSource) (seed : UInt64) (b : Bench) (plays : List Play) :
    Prop where
  /-- At every point the draws are the first times of the seed, one for each step so far that
  draws. -/
  draws : ∀ past, past <+: plays →
    (Play.benchAfter b past).dump.draws =
      (List.range (past.countP Play.draws)).map fun j => source seed (.ofNat j)
  /-- A step that draws succeeds, and its time is the solve time, without a penalty and with no
  inspection going on. -/
  drawn : ∀ past p, past ++ [p] <+: plays → p.draws = true →
    let t := source seed (.ofNat (past.countP Play.draws))
    p.result = .ok (.timeDrawn t) ∧ p.after.dump.draws[past.countP Play.draws]? = some t ∧
      p.after.station.solveTime = some t ∧ p.after.station.penalty = none ∧
      p.after.station.effectivePenalty = .none ∧ p.after.station.inspectionActive = false
  /-- Nothing else draws, be it a step that fails or one that resets the station. -/
  unmoved : ∀ p ∈ plays, p.draws = false ∨ p.result.isOk = false →
    p.after.draws = p.before.draws
  waited : ∀ past p, past ++ [p] <+: plays → p.before.draws = (Play.benchAfter b past).draws

/-- Two runs of one seed draw the same times, until one of them draws no more. -/
theorem DrawnInOrder.agree {source : TimeSource} {seed : UInt64} {b b' : Bench}
    {plays plays' : List Play} (h : DrawnInOrder source seed b plays)
    (h' : DrawnInOrder source seed b' plays') {past past' : List Play} (hp : past <+: plays)
    (hp' : past' <+: plays') (hle : past.countP Play.draws ≤ past'.countP Play.draws) :
    (Play.benchAfter b past).dump.draws <+: (Play.benchAfter b' past').dump.draws := by
  rw [h.draws past hp, h'.draws past' hp']
  obtain ⟨more, hmore⟩ := Nat.exists_eq_add_of_le hle
  rw [hmore, List.range_add, List.map_append]
  exact List.prefix_append _ _

namespace Trace

/-- Whatever the source, its times are drawn in order. -/
theorem drawnInOrder_playsFrom (source : TimeSource) (rig : Rig) (flow : Flow) (i : Nat)
    (steps : List Step) {b : Bench} {seed : UInt64} (hb : b.draws = .first source seed 0) :
    DrawnInOrder source seed b (playsFrom source rig flow i steps b) := by
  refine ⟨?_, ?_, ?_, fun past p hp => draws_before hp⟩
  · intro past hp
    exact congrArg Draws.drawn (draws_benchAfter hb hp)
  · intro past p hp hdraws t
    have hpast := draws_benchAfter hb ((List.prefix_append _ _).trans hp)
    have hbefore := (draws_before hp).trans hpast
    have houtcome := p.before.executeFrom_of_drawsTime source rig hdraws
    rw [(executed_playsFrom hp).2, hbefore, Draws.nextFrom_first, Prod.mk.injEq] at houtcome
    obtain ⟨hresult, hafter⟩ := houtcome
    rw [hafter]
    exact ⟨hresult, by simp [Bench.dump, Draws.first, t], rfl, rfl, rfl, rfl⟩
  · intro p hp hnot
    obtain ⟨past, later, hsplit⟩ := List.append_of_mem hp
    have hprefix : past ++ [p] <+: playsFrom source rig flow i steps b := ⟨later, by simp [hsplit]⟩
    have hexecuted := (executed_playsFrom hprefix).2
    have hdraws : ¬ p.step.drawsTime = true := by
      intro hd
      rw [Bench.executeFrom_of_drawsTime _ _ _ hd] at hexecuted
      rcases hnot with hnot | hfail
      · exact Bool.false_ne_true (hnot.symm.trans hd)
      · rw [← (Prod.mk.inj hexecuted).1] at hfail
        cases hfail
    have hafter := p.before.draws_executeFrom source rig p.step
    rwa [hexecuted, if_neg hdraws] at hafter

end Trace

/-- What a run of some steps with a seed draws from a source. -/
def Trace.drawsFrom (source : TimeSource) (rig : Rig) (flow : Flow) (steps : List Step)
    (seed : UInt64) : List Millis :=
  (Play.benchAfter (.start rig seed)
    (playsFrom source rig flow 0 steps (.start rig seed))).dump.draws

/-- Of two runs of one seed, one draws what the other draws and then some more. -/
theorem Trace.drawsFrom_prefix_or (source : TimeSource) (seed : UInt64) (rig rig' : Rig)
    (flow flow' : Flow) (steps steps' : List Step) :
    drawsFrom source rig flow steps seed <+: drawsFrom source rig' flow' steps' seed ∨
      drawsFrom source rig' flow' steps' seed <+: drawsFrom source rig flow steps seed := by
  have h := drawnInOrder_playsFrom source rig flow 0 steps (b := .start rig seed) rfl
  have h' := drawnInOrder_playsFrom source rig' flow' 0 steps' (b := .start rig' seed) rfl
  rcases Nat.le_total
      ((playsFrom source rig flow 0 steps (.start rig seed)).countP Play.draws)
      ((playsFrom source rig' flow' 0 steps' (.start rig' seed)).countP Play.draws) with hle | hle
  · exact Or.inl (h.agree h' List.prefix_rfl List.prefix_rfl hle)
  · exact Or.inr (h'.agree h List.prefix_rfl List.prefix_rfl hle)

/-- The run of a test draws from the range of the rig. -/
theorem Trace.draws_run (rig : Rig) (flow : Flow) (steps : List Step) (seed : UInt64) :
    let trace := run rig flow 0 steps (.start rig seed)
    trace.bench.dump.draws = drawsFrom rig.range.draw rig flow steps seed ∧
      trace.bench.dump.draws =
        (List.range (trace.entries.countP (·.step.drawsTime))).map
          fun j => rig.range.draw seed (.ofNat j) := by
  intro trace
  have htrace : trace = ⟨(turns rig flow 0 steps (.start rig seed)).map Turn.entry, _⟩ :=
    run_eq_turns rig flow 0 steps (.start rig seed)
  have hplays := playsFrom_draw rig flow 0 steps (.start rig seed)
  have hbench : trace.bench = Play.benchAfter (.start rig seed)
      (playsFrom rig.range.draw rig flow 0 steps (.start rig seed)) := by
    rw [htrace, hplays, benchAfter_map_play]
  have hcount : trace.entries.countP (·.step.drawsTime) =
      (playsFrom rig.range.draw rig flow 0 steps (.start rig seed)).countP Play.draws := by
    rw [htrace, hplays, List.countP_map, List.countP_map]
    rfl
  rw [hbench, hcount]
  exact ⟨rfl, (drawnInOrder_playsFrom rig.range.draw rig flow 0 steps rfl).draws _ List.prefix_rfl⟩

/-- **Random times are drawn in order.** Wherever they come from, a run draws the first times of
its seed, one for each step that asks for one, whatever the other steps are. The tests of a suite
draw from the range of the settings, and only times in it. -/
theorem draws_in_order (suite : Suite) (settings : Settings) (test : Test) (seed : UInt64) :
    let rig := suite.rig settings
    let flow : Flow := ⟨test.sleepBetween, settings.continueOnFailure⟩
    let trace := test.run rig settings.continueOnFailure seed
    (∀ source : TimeSource, DrawnInOrder source seed (.start rig seed)
      (Trace.playsFrom source rig flow 0 test.steps (.start rig seed))) ∧
    (∀ (source : TimeSource) (rig' : Rig) (flow' : Flow) (steps' : List Step),
      Trace.drawsFrom source rig flow test.steps seed <+:
          Trace.drawsFrom source rig' flow' steps' seed ∨
        Trace.drawsFrom source rig' flow' steps' seed <+:
          Trace.drawsFrom source rig flow test.steps seed) ∧
    Trace.playsFrom settings.range.draw rig flow 0 test.steps (.start rig seed) =
      (Trace.turns rig flow 0 test.steps (.start rig seed)).map Turn.play ∧
    trace.bench.dump.draws = Trace.drawsFrom settings.range.draw rig flow test.steps seed ∧
    trace.bench.dump.draws =
      (List.range (trace.entries.countP (·.step.drawsTime))).map
        (fun j => settings.range.draw seed (.ofNat j)) ∧
    (∀ dump, (suite.perform settings test seed).report.dump = some dump →
      dump = trace.bench.dump) ∧
    ∀ t ∈ trace.bench.dump.draws,
      min settings.rngMin settings.rngMax ≤ t ∧ t ≤ max settings.rngMin settings.rngMax := by
  intro rig flow trace
  obtain ⟨hfrom, hdraws⟩ := Trace.draws_run rig flow test.steps seed
  refine ⟨fun source => Trace.drawnInOrder_playsFrom source rig flow 0 test.steps rfl,
    fun source rig' flow' => Trace.drawsFrom_prefix_or source seed rig rig' flow flow' test.steps,
    Trace.playsFrom_draw rig flow 0 test.steps (.start rig seed), hfrom, hdraws,
    fun dump => Suite.dump_perform, ?_⟩
  intro t ht
  obtain ⟨hleast, hgreatest⟩ := TimeRange.between_eq settings.rngMin settings.rngMax
  obtain ⟨j, -, rfl⟩ := List.mem_map.1 (hdraws ▸ ht)
  rw [← hleast, ← hgreatest]
  exact settings.range.bounds_draw seed (.ofNat j)

/-- Neither a reset nor a step that fails nor a time that is given comes between two draws. -/
example :
    let rig : Rig :=
      { inventory := { groups := [], cards := {}, buttons := {} }
        range := .between 5 9, pacing := .compressed }
    Trace.drawsFrom (fun seed j => 10 * seed + j) rig ⟨100, true⟩
      [.solveTimeRng, .resetState, .button ⟨"no", 9⟩, .solveTime (some 3), .solveTime none] 7 =
      [70, 71] := by
  decide

end StationBench
