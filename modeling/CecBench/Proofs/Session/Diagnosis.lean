import CecBench.Proofs.Console.Markers
import CecBench.Proofs.Session.Beginning

/-!
# Why a session does not begin

Once the adapter is started and its output can be read, the performance of the
script decides how the beginning ends.  It succeeds if and only if a line that
is heard by the deadline tells that the console is ready.  Otherwise the fault
holds the last lines that were heard by the deadline, the exit code as far as it
is known, and the reason that they tell.

The exit code has two sources.  `pollExitCode_eq` says what the polling sees:
the code up to the last look, and that look comes a full second after the
moment at which the output ended.
-/

namespace CecBench

open Timed (behind)
open Rig (Act Attends ReadinessEnds)

/-! ## Reasons -/

/-- The reason that the last lines and the exit code tell. -/
inductive Diagnosed (codec : Codec) (tail : List String) : Option Int → StartFailure → Prop
  /-- The first marker that is found tells it, whatever the exit code is. -/
  | marked {before after : List (List Char × StartFailure)} {marker : List Char}
    {reason : StartFailure} {code : Option Int} :
    codec.failureMarkers = before ++ (marker, reason) :: after → Codec.Finds marker tail →
    (∀ other ∈ before, ¬ Codec.Finds other.1 tail) → Diagnosed codec tail code reason
  /-- If none is found, the exit code tells it. -/
  | missing : (∀ marker ∈ codec.failureMarkers, ¬ Codec.Finds marker.1 tail) →
    Diagnosed codec tail (some 127) .binaryMissing
  | forbidden : (∀ marker ∈ codec.failureMarkers, ¬ Codec.Finds marker.1 tail) →
    Diagnosed codec tail (some 126) .permissionDenied
  | exited {code : Int} : (∀ marker ∈ codec.failureMarkers, ¬ Codec.Finds marker.1 tail) →
    code ≠ 127 → code ≠ 126 → Diagnosed codec tail (some code) .exited
  | silent : (∀ marker ∈ codec.failureMarkers, ¬ Codec.Finds marker.1 tail) →
    Diagnosed codec tail none .notReady

theorem diagnosed_reason (codec : Codec) (tail : List String) (code : Option Int) :
    Diagnosed codec tail code
      ((codec.startFailure? tail).getD (Session.reasonOfExit code)) := by
  cases hfind : codec.failureMarkers.find? fun m =>
      (tail.map fun line => Text.lower line.toList).any (Text.contains m.1) with
  | some m =>
    obtain ⟨hfound, before, after, heq, hbefore⟩ := List.find?_eq_some_iff_append.mp hfind
    rw [Codec.startFailure?, hfind]
    refine .marked heq (Codec.any_contains_iff.mp hfound) fun other ho hfinds => ?_
    have := hbefore other ho
    rw [Codec.any_contains_iff.mpr hfinds] at this
    cases this
  | none =>
    have hnone : ∀ marker ∈ codec.failureMarkers, ¬ Codec.Finds marker.1 tail := by
      intro marker hm hfinds
      exact List.find?_eq_none.mp hfind marker hm (Codec.any_contains_iff.mpr hfinds)
    rw [Codec.startFailure?, hfind]
    cases code with
    | none => exact .silent hnone
    | some code =>
      by_cases h127 : code = 127
      · subst h127
        exact .missing hnone
      · by_cases h126 : code = 126
        · subst h126
          exact .forbidden hnone
        · have hexited : Session.reasonOfExit (some code) = .exited := by
            unfold Session.reasonOfExit
            split <;> simp_all
          rw [Option.map_none, Option.getD_none, hexited]
          exact .exited hnone h127 h126

namespace Session

variable {s : Session} {t t' u : Timeline Rig Happening} {id : ProgramId} {context : String}
  {perf past : Performance} {m : Monitor} {p : Program}

/-! ## The exit code -/

theorem exitCode_of_attends (h : Attends s.codec s.observer id perf past m p t)
    (hholds : s.adapter.Holds id t.state) : s.adapter.exitCode t.state = past.exitCode := by
  rw [hholds.exitCode, Rig.exitCode, h.watches.program]
  exact h.watches.exitCode

/-- One pause and one look. -/
theorem pollExitCode_succ (s : Session) (n : Nat) (t : Timeline Rig Happening) :
    s.pollExitCode (n + 1) t =
      (match s.adapter.exitCode (t.wait (fun _ => false) Remote.pollInterval).2.state with
        | some code => pure (some code)
        | none => s.pollExitCode n : Act (Option Int))
        (t.wait (fun _ => false) Remote.pollInterval).2 := rfl

/-- The polling sees the exit code up to its last look. -/
theorem pollExitCode_eq (n : Nat) (h : Attends s.codec s.observer id perf past m p t)
    (hholds : s.adapter.Holds id t.state) :
    ∃ u, s.pollExitCode (n + 1) t =
      .ok (perf.exitCodeBy (t.now + Remote.pollInterval * (n + 1))) u := by
  induction n generalizing t past m p with
  | zero =>
    obtain ⟨past', m', p', h', hnow, hlater⟩ := Rig.wait_pause Remote.pollInterval h
    have hholds' := holds_wait h.ordered hholds (fun _ => false) Remote.pollInterval
    rw [s.pollExitCode_succ, exitCode_of_attends h' hholds']
    generalize (t.wait (fun _ => false) Remote.pollInterval).2 = u at h' hnow hlater
    have hcode : perf.exitCodeBy (t.now + Remote.pollInterval * (0 + 1)) = past'.exitCode := by
      rw [h'.whole]
      exact Performance.exitCodeBy_eq (fun x hx => hnow ▸ h'.due x hx) (.inr hlater)
    rw [hcode]
    cases past'.exitCode with
    | some code => exact ⟨u, rfl⟩
    | none => exact ⟨u, rfl⟩
  | succ n ih =>
    obtain ⟨past', m', p', h', hnow, hlater⟩ := Rig.wait_pause Remote.pollInterval h
    have hholds' := holds_wait h.ordered hholds (fun _ => false) Remote.pollInterval
    rw [s.pollExitCode_succ, exitCode_of_attends h' hholds']
    generalize (t.wait (fun _ => false) Remote.pollInterval).2 = u at h' hnow hlater hholds'
    cases hexit : past'.exitCode with
    | some code =>
      refine ⟨u, ?_⟩
      have hcode : perf.exitCodeBy (t.now + Remote.pollInterval * (n + 1 + 1)) = some code := by
        rw [h'.whole, ← hexit]
        refine Performance.exitCodeBy_eq (fun x hx => ?_) (.inl (by simp [hexit]))
        have := h'.due x hx
        rw [hnow] at this
        exact this.trans (Nat.add_le_add_left (Nat.le_mul_of_pos_right _ (Nat.succ_pos _)) _)
      rw [hcode]
      rfl
    | none =>
      obtain ⟨v, hv⟩ := ih h' hholds'
      refine ⟨v, ?_⟩
      show s.pollExitCode (n + 1) u = _
      rw [hv, hnow]
      congr 2
      rw [Nat.mul_succ _ (n + 1)]
      omega

/-- What is known of the exit code at the moment of a failure. -/
theorem reapExitCode_eq (hs : perf.Pairwise fun x y => x.1 ≤ y.1)
    (h : Attends s.codec s.observer id perf past m p t) (hholds : s.adapter.Holds id t.state)
    (hlater : past.hasEnded = true ∨ ∀ x ∈ doings id t.agenda, t.now < x.1) :
    ∃ u, s.reapExitCode m t = .ok ((perf.exitCodeBy t.now).or
      (if past.hasEnded then perf.exitCodeBy (t.now + exitTimeout) else none)) u := by
  have hended : m.hasEnded = past.hasEnded := by
    rw [← Performance.isClosed_output]
    exact h.watches.follows.hasEnded
  have hreap : s.reapExitCode m t =
      (match s.adapter.exitCode t.state with
        | some code => pure (some code)
        | none => if m.hasEnded then s.pollExitCode 20 else pure none : Act (Option Int)) t := rfl
  rw [hreap, exitCode_of_attends h hholds, hended]
  cases hexit : past.exitCode with
  | some code =>
    have hcode : perf.exitCodeBy t.now = some code := by
      rw [h.whole, ← hexit]
      exact Performance.exitCodeBy_eq h.due (.inl (by simp [hexit]))
    rw [hcode]
    exact ⟨t, rfl⟩
  | none =>
    cases hend : past.hasEnded with
    | true =>
      obtain ⟨u, hu⟩ := pollExitCode_eq 19 h hholds
      refine ⟨u, ?_⟩
      show s.pollExitCode (19 + 1) t = _
      have hlast : (perf.exitCodeBy t.now).or (perf.exitCodeBy (t.now + exitTimeout)) =
          perf.exitCodeBy (t.now + exitTimeout) := by
        cases hnow : perf.exitCodeBy t.now with
        | none => rfl
        | some code => exact (Performance.exitCodeBy_mono hs (Nat.le_add_right _ _) hnow).symm
      rw [hu, if_pos rfl, hlast]
      rfl
    | false =>
      refine ⟨t, ?_⟩
      have hrest : ∀ x ∈ doings id t.agenda, t.now < x.1 := by simpa [hend] using hlater
      have hcode : perf.exitCodeBy t.now = none := by
        rw [h.whole, ← hexit]
        exact Performance.exitCodeBy_eq h.due (.inr hrest)
      rw [hcode]
      rfl

/-! ## The diagnosis -/

/-- The last of the lines heard that are no frames. -/
def lastLines (codec : Codec) (heard : List Reading) : List String :=
  ((heard.map Prod.snd).filter codec.isDiagnosticLine).rtake Monitor.usualTailSize

/-- The exit code of a performance that fails at the deadline or before: the code at that moment
or, if the output has ended, the code up to a second later. -/
def finalCode (perf : Performance) (deadline : Nat) : Option Int :=
  (perf.exitCodeBy (perf.moment deadline)).or
    (if perf.endsBy deadline then perf.exitCodeBy (perf.moment deadline + 1000) else none)

theorem diagnose_apply (s : Session) (context : String) {code : Option Int} (ho : t.Ordered)
    (h : s.reapExitCode m t = .ok code u) :
    s.diagnose m context t = .ok ⟨context, .notReady
      ⟨(s.codec.startFailure? m.diagnostics).getD (reasonOfExit code), code, s.readyTimeout,
        m.diagnostics⟩ t.state.surroundings.workplace⟩ u := by
  obtain ⟨_, hspared⟩ := (s.reapExitCode_waits m).keeps (R := Rig.Spared) t ho
  rw [Timed.behind_of_ok h] at hspared
  rw [← hspared.workplace]
  exact Timed.bind_of_ok h

/-- A monitor that attends the performance knows the last lines. -/
theorem diagnostics_eq (h : Attends s.codec s.observer id perf past m p t) :
    m.diagnostics = lastLines s.codec past.heard := h.watches.follows.knows.diagnostics

/-- If the wait for readiness is missed, the fault tells why. -/
theorem diagnose_missed (context : String) {deadline : Nat}
    (hs : perf.Pairwise fun x y => x.1 ≤ y.1)
    (h : Attends s.codec s.observer id perf past m p t) (hholds : s.adapter.Holds id t.state)
    (hle : t.now ≤ deadline) (hmoment : t.now = perf.moment deadline)
    (hwhy : past.hasEnded = true ∨
      perf.endsBy deadline = false ∧ ∀ x ∈ doings id t.agenda, deadline < x.1) :
    let tail := lastLines s.codec (perf.heardBy deadline)
    let code := finalCode perf deadline
    ∃ reason u, Diagnosed s.codec tail code reason ∧
      s.diagnose m context t = .ok ⟨context, .notReady ⟨reason, code, s.readyTimeout, tail⟩
        t.state.surroundings.workplace⟩ u := by
  intro tail code
  have hends : perf.endsBy deadline = past.hasEnded := by
    cases hend : past.hasEnded with
    | true =>
      rw [h.whole]
      exact Performance.endsBy_of_ended (fun x hx => (h.due x hx).trans hle) hend
    | false => simpa [hend] using (hwhy.resolve_left (by simp [hend])).1
  obtain ⟨u, hreap⟩ := reapExitCode_eq hs h hholds
    (hwhy.imp_right fun hlate x hx => hle.trans_lt (hlate.2 x hx))
  have hcode : (perf.exitCodeBy t.now).or
      (if past.hasEnded then perf.exitCodeBy (t.now + exitTimeout) else none) = code := by
    rw [hmoment, ← hends]
    rfl
  have htail : m.diagnostics = tail := by
    rw [diagnostics_eq h, ← h.heardBy_eq hle (hwhy.imp_right And.right)]
  have hdiagnose := s.diagnose_apply context h.ordered hreap
  rw [hcode, htail] at hdiagnose
  exact ⟨_, u, diagnosed_reason s.codec tail code, hdiagnose⟩

theorem awaitReadiness_ends (context : String) (hm : isMeasurable s.readyTimeout = true)
    (hs : perf.Pairwise fun x y => x.1 ≤ y.1)
    (h : Attends s.codec s.observer id perf past m p t) (hholds : s.adapter.Holds id t.state)
    (hstart : past.hasEnded = true → perf.moment (t.now + s.readyTimeout.toNat) = t.now) :
    let deadline := t.now + s.readyTimeout.toNat
    let tail := lastLines s.codec (perf.heardBy deadline)
    let code := finalCode perf deadline
    ((∃ x ∈ perf.heardBy deadline, s.codec.isReadyLine x.2 = true) ∧
      ∃ u, s.awaitReadiness context t = .ok () u) ∨
    ((∀ x ∈ perf.heardBy deadline, s.codec.isReadyLine x.2 = false) ∧
      ∃ reason u, Diagnosed s.codec tail code reason ∧
        s.awaitReadiness context t = .error (.start ⟨context,
          .notReady ⟨reason, code, s.readyTimeout, tail⟩ t.state.surroundings.workplace⟩) u) := by
  intro deadline tail code
  have hends := Rig.wait_readiness h hstart
  have hholds' := holds_wait h.ordered hholds Rig.readinessIsKnown s.readyTimeout
  have hspared : Rig.Spared t (t.wait Rig.readinessIsKnown s.readyTimeout).2 :=
    (Rig.await_keeps Rig.readinessIsKnown s.readyTimeout t h.ordered).2
  cases hends with
  | @ready past' m' p' h' hready hle =>
    obtain ⟨x, hx, hline⟩ := h'.exists_ready hready
    have hsucceeds := s.awaitReadiness_apply context hm h'.watches.reader
    rw [if_pos hready] at hsucceeds
    exact .inl ⟨⟨x, Performance.heardBy_mono hle hx, hline⟩, _, hsucceeds⟩
  | @missed past' m' p' h' hready hle hmoment hwhy =>
    obtain ⟨reason, u, hdiagnosed, hdiagnose⟩ :=
      diagnose_missed context hs h' hholds' hle hmoment hwhy
    refine .inr ⟨?_, reason, u, hdiagnosed, ?_⟩
    · rw [h'.watches.isReady] at hready
      rw [h'.heardBy_eq hle (hwhy.imp_right And.right)]
      simpa using hready
    · rw [s.awaitReadiness_apply context hm h'.watches.reader, if_neg (by simp [hready]),
        Timed.bind_of_ok hdiagnose, hspared.workplace]
      rfl

/-- An attempt that has started the adapter and can read its output goes on with the watch. -/
theorem attempt_apply (hstart : s.startAdapter context t = .ok () u)
    (houtput : s.adapter.output u = .ok id u) :
    s.attempt s.startAdapter context t = s.awaitReadiness context (s.attach id u) :=
  (Timed.bind_of_ok hstart).trans (s.watch_apply context houtput)

theorem begin_of_attempt_ok (hnew : t.state.holdings.phase = .uninitialized)
    (h : s.attempt s.startAdapter (s.contextFor "init" context) t = .ok () u) :
    ∃ t', s.begin context t = .ok () t' := by
  have hends := s.beginBy_ends s.startAdapter context hnew
  rw [h, ← s.begin_eq_beginBy context] at hends
  generalize s.begin context t = result at hends ⊢
  cases hends with
  | runs => exact ⟨_, rfl⟩
  | fails herror => cases herror

theorem begin_of_attempt_error {e : Fault} (hnew : t.state.holdings.phase = .uninitialized)
    (h : s.attempt s.startAdapter (s.contextFor "init" context) t = .error e u) :
    ∃ t', s.begin context t = .error e t' ∧ t'.state.holdings.phase = .terminated := by
  have hends := s.beginBy_ends s.startAdapter context hnew
  rw [h, ← s.begin_eq_beginBy context] at hends
  generalize s.begin context t = result at hends ⊢
  cases hends with
  | runs hok => cases hok
  | fails herror =>
    cases herror
    exact ⟨_, rfl, rfl⟩

theorem attach_workplace (ho : t.Ordered) (hstart : s.startAdapter context t = .ok () u) :
    (s.attach id u).state.surroundings.workplace = t.state.surroundings.workplace := by
  have hspared := (s.startAdapter_spares context t ho).2
  rw [Timed.behind_of_ok hstart] at hspared
  exact (Rig.settle_spares u.now (s.attached id u.state)).workplace.trans hspared.workplace

/-- If the adapter is started and its output can be read, the beginning of a session depends on what
is heard of the script by the deadline.  A line with the ready marker among it is all that it takes.
Without one, the fault says what was heard at last, how the program exited if it is known, and the
reason that these tell.  A time that cannot be measured is refused, whatever the script is. -/
theorem begin_diagnoses (s : Session) (context : String) (ho : t.Ordered)
    (hplaced : Rig.Placed t) (hnew : t.state.holdings.phase = .uninitialized)
    (hstart : s.adapter.start (.named s.logical) (.number s.physical.value)
      (s.contextFor "init" context) t = .ok () u)
    (houtput : s.adapter.output u = .ok id u) :
    let perf := t.state.nextScript.performance t.now
    let deadline := t.now + s.readyTimeout.toNat
    let tail := lastLines s.codec (perf.heardBy deadline)
    let code := finalCode perf deadline
    let isReady := ∃ x ∈ perf.heardBy deadline, s.codec.readyMarker <:+: Text.lower x.2.toList
    (isMeasurable s.readyTimeout = true →
      (isReady ↔ ∃ t', s.begin context t = .ok () t') ∧
      (¬ isReady → ∃ reason t', Diagnosed s.codec tail code reason ∧
        s.begin context t = .error (.start ⟨s.contextFor "init" context,
          .notReady ⟨reason, code, s.readyTimeout, tail⟩ t.state.surroundings.workplace⟩) t')) ∧
    (isMeasurable s.readyTimeout = false →
      ∃ t', s.begin context t = .error .immeasurable t' ∧
        t'.state.holdings.phase = .terminated) := by
  intro perf deadline tail code isReady
  change s.startAdapter (s.contextFor "init" context) t = .ok () u at hstart
  have hattempt := attempt_apply hstart houtput
  obtain ⟨hholds, _⟩ := Adapter.output_eq_ok houtput
  obtain ⟨hnow, m, p, hattends⟩ := attend_start ho hplaced hstart hholds
  have hclock : (s.attach id u).now = t.now := hnow
  refine ⟨fun hm => ?_, fun hm => ?_⟩
  · have hawait := awaitReadiness_ends (s.contextFor "init" context) hm
      (t.state.nextScript.performance_sorted t.now) hattends (attach_holds hholds)
      (hclock.symm ▸ moment_of_opening t.state.nextScript t.now s.readyTimeout)
    rw [hclock, attach_workplace ho hstart] at hawait
    rcases hawait with ⟨⟨x, hx, hline⟩, u', hok⟩ | ⟨hnone, reason, u', hdiagnosed, herror⟩
    · have hready : isReady := ⟨x, hx, Codec.isReadyLine_iff.mp hline⟩
      have hbegin := begin_of_attempt_ok hnew (hattempt.trans hok)
      exact ⟨⟨fun _ => hbegin, fun _ => hready⟩, fun hnot => absurd hready hnot⟩
    · have hnot : ¬ isReady := by
        rintro ⟨x, hx, hmarker⟩
        have := hnone x hx
        rw [Codec.isReadyLine_iff.mpr hmarker] at this
        cases this
      obtain ⟨t', hbegin, _⟩ := begin_of_attempt_error hnew (hattempt.trans herror)
      refine ⟨⟨fun hready => absurd hready hnot, ?_⟩, fun _ => ⟨reason, t', hdiagnosed, hbegin⟩⟩
      rintro ⟨t'', hok⟩
      cases hok.symm.trans hbegin
  · exact begin_of_attempt_error hnew (hattempt.trans (s.awaitReadiness_immeasurable _ hm))

/-- The output ends after a tenth of a second, and the program exits exactly a second later. -/
theorem begin_diagnoses_of_late_exit :
    let script : ProgramScript :=
      { opening := [.prints "opening"], events := [(100, [.endsOutput]), (1100, [.exits 127])] }
    let t : Timeline Rig Happening := { state.surroundings.scripts := [script] }
    let tail := lastLines Codec.usual ((script.performance 0).heardBy 5000)
    tail = ["opening"] ∧ ∃ reason t', Diagnosed Codec.usual tail (some 127) reason ∧
      usual.begin "" t = .error (.start ⟨usual.contextFor "init" "",
        .notReady ⟨reason, some 127, 5000, tail⟩ {}⟩) t' := by
  intro script t tail
  have hup : ∃ u, usual.adapter.start (.named .playback1) (.number 0x1000)
      (usual.contextFor "init" "") t = .ok () u ∧ usual.adapter.output u = .ok 0 u :=
    ⟨_, rfl, rfl⟩
  obtain ⟨u, hstart, houtput⟩ := hup
  have hcode : finalCode (script.performance 0) 5000 = some 127 := by decide +kernel
  have hsilent : ¬ ∃ x ∈ (script.performance 0).heardBy 5000,
      usual.codec.readyMarker <:+: Text.lower x.2.toList := by decide +kernel
  have hends := (begin_diagnoses usual "" (Timeline.ordered_idle 0 _)
    (fun x hx => absurd hx List.not_mem_nil) rfl hstart houtput).1 (by decide +kernel)
  obtain ⟨reason, t', hdiagnosed, hbegin⟩ := hends.2 hsilent
  refine ⟨by decide +kernel, reason, t', ?_⟩
  rw [← hcode]
  exact ⟨hdiagnosed, hbegin⟩

/-- The program tells at once that it is ready, and still a session that would wait for the least
time that cannot be measured does not begin. -/
theorem begin_immeasurable_misses_readiness :
    let s : Session := { usual with readyTimeout := immeasurableTime }
    let script : ProgramScript := { opening := [.prints "waiting for input"] }
    let t : Timeline Rig Happening := { state.surroundings.scripts := [script] }
    (∃ u, usual.adapter.start (.named .playback1) (.number 0x1000)
      (usual.contextFor "init" "") t = .ok () u ∧ usual.adapter.output u = .ok 0 u) ∧
    (∃ x ∈ (script.performance 0).heardBy s.readyTimeout.toNat,
      s.codec.readyMarker <:+: Text.lower x.2.toList) ∧
    ¬ ∃ t', s.begin "" t = .ok () t' := by
  intro s script t
  refine ⟨⟨_, rfl, rfl⟩, by decide +kernel, ?_⟩
  rintro ⟨t', hok⟩
  have hfails : (match s.begin "" t with | .ok _ _ => true | .error _ _ => false) = false := by
    decide +kernel
  rw [hok] at hfails
  cases hfails

end Session

end CecBench
