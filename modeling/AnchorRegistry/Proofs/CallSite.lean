import AnchorRegistry.Proofs.Session

/-! The places at which an action calls the store. `Makes` says of an action that runs without a fault at which
places, in order, it makes its calls, and what a fault comes to that is planned for one of them: at a call that is
never reached it makes no difference at all, and at a place that is reached the action ends, with what that place
makes of the failure. There is one rule for each way to build an action, so the places of an operation are read off
its text. -/

namespace AnchorRegistry

/-- A place at which a call is made, and what becomes of a failure there. -/
structure CallSite where
  call : Call
  becomes : Failure → Failure

namespace CallSite

/-- The places at which one kind of call is made. -/
def among (sites : List CallSite) (call : Call) : List CallSite := sites.filter fun site => site.call = call

theorem among_append (xs ys : List CallSite) (call : Call) : among (xs ++ ys) call = among xs call ++ among ys call :=
  List.filter_append xs ys

theorem among_singleton (site : CallSite) (call : Call) :
    among [site] call = if site.call = call then [site] else [] := by
  by_cases same : site.call = call <;> simp [among, same]

/-- The place with what becomes of its failure further out. -/
def within (outer : Failure → Failure) (site : CallSite) : CallSite :=
  ⟨site.call, fun failure => outer (site.becomes failure)⟩

theorem among_map_within (outer : Failure → Failure) (sites : List CallSite) (call : Call) :
    among (sites.map (within outer)) call = (among sites call).map (within outer) := by
  unfold among
  rw [List.filter_map]
  rfl

end CallSite

namespace Session

/-- The session with a fault planned. -/
def plan (s : Session) (fault : Fault) : Session := { s with fault := some fault }

theorem plan_count (s : Session) (fault : Fault) (call : Call) :
    (s.plan fault).count call = (s.count call).plan fault := by
  cases call <;> rfl

theorem calls_count (s : Session) (call other : Call) :
    (s.count call).calls other = s.calls other + if call = other then 1 else 0 := by
  cases call <;> cases other <;> rfl

theorem planned?_plan (s : Session) (fault : Fault) (call : Call) :
    (s.plan fault).planned? call =
      if fault.call = call ∧ fault.nth = s.calls call then some fault.failure else none := rfl

theorem planned?_unfaulted {s : Session} (unfaulted : s.fault = none) (call : Call) : s.planned? call = none := by
  rw [planned?, unfaulted]

end Session

/-- What becomes of a failure where another is raised for a broken integrity. -/
def Failure.insteadOfIntegrity (other : Failure) : Failure → Failure
  | storage .integrity => other
  | failure => failure

namespace Action

open CallSite Session

variable {α β : Type}

/-- An action that makes no call and does not look at the fault. -/
structure Quiet (act : Action α) : Prop where
  plan : ∀ s fault, act (s.plan fault) = ((act s).1, (act s).2.plan fault)
  calls : ∀ s call, (act s).2.calls call = s.calls call
  frame : ∀ s : Session, s.Frame (act s).2

theorem quiet_pure (a : α) : Quiet (pure a : Action α) := ⟨fun _ _ => rfl, fun _ _ => rfl, fun _ => ⟨rfl, rfl, rfl⟩⟩

/-- Whatever failure is raised, raising it is quiet. -/
theorem quiet_raise (failure : Failure) : Quiet (fun s => (.error failure, s) : Action α) :=
  ⟨fun _ _ => rfl, fun _ _ => rfl, fun _ => ⟨rfl, rfl, rfl⟩⟩

theorem quiet_log (r : Log.Record) : Quiet (log r) :=
  ⟨fun _ _ => rfl, fun _ call => by cases call <;> rfl, fun _ => ⟨rfl, rfl, rfl⟩⟩

theorem quiet_now : Quiet now := ⟨fun _ _ => rfl, fun _ _ => rfl, fun _ => ⟨rfl, rfl, rfl⟩⟩

theorem quiet_freshId : Quiet freshId := ⟨fun _ _ => rfl, fun _ _ => rfl, fun _ => ⟨rfl, rfl, rfl⟩⟩

theorem quiet_fail (cause : Cause) (anchorId accountReference : Option Text) :
    Quiet (fail cause anchorId accountReference : Action α) :=
  ⟨fun _ _ => rfl, fun _ _ => rfl, fun _ => ⟨rfl, rfl, rfl⟩⟩

theorem quiet_refuse (violation : Option Violation) (anchorId : Option Text) : Quiet (refuse violation anchorId) := by
  cases violation with
  | none => exact quiet_pure ()
  | some v => exact quiet_fail _ anchorId none

theorem quiet_query (select : Store → Attempt α) : Quiet (query select) :=
  ⟨fun _ _ => rfl, fun _ _ => rfl, fun _ => ⟨rfl, rfl, rfl⟩⟩

theorem quiet_write (update : Store → Attempt Store) : Quiet (write update) := by
  refine ⟨fun s fault => ?_, fun s call => ?_, fun s => ?_⟩
  · have same : (s.plan fault).store = s.store := rfl
    unfold write
    rw [same]
    cases update s.store <;> rfl
  · unfold write
    cases update s.store <;> cases call <;> rfl
  · unfold write
    cases update s.store <;> exact ⟨rfl, rfl, rfl⟩

theorem quiet_binding (statement : Statement) {act : Bool → Action α} (quiet : ∀ prepared, Quiet (act prepared)) :
    Quiet (binding statement act) := by
  refine ⟨fun s fault => ?_, fun s call => ?_, fun s => ?_⟩
  · exact (quiet _).plan { s with toConnection := s.prepare statement } fault
  · exact ((quiet _).calls _ call).trans (by cases call <;> rfl)
  · have frame := (quiet (s.isPrepared statement)).frame { s with toConnection := s.prepare statement }
    exact ⟨frame.now, frame.freshId, frame.fault⟩

theorem Quiet.bind {act : Action α} {next : α → Action β} (quiet : act.Quiet) (rest : ∀ a, (next a).Quiet) :
    (act >>= next).Quiet := by
  refine ⟨fun s fault => ?_, fun s call => ?_, fun s => ?_⟩
  · rw [bind_apply, bind_apply, quiet.plan]
    cases act s with
    | mk result t =>
        cases result with
        | ok a => exact (rest a).plan t fault
        | error failure => rfl
  · have calls := quiet.calls s call
    rw [bind_apply]
    cases run : act s with
    | mk result t =>
        rw [run] at calls
        cases result with
        | ok a => exact ((rest a).calls t call).trans calls
        | error failure => exact calls
  · have frame := quiet.frame s
    rw [bind_apply]
    cases run : act s with
    | mk result t =>
        rw [run] at frame
        cases result with
        | ok a => exact frame.trans ((rest a).frame t)
        | error failure => exact frame

/-- How an action makes its calls from a session, and what a planned fault comes to. -/
structure Makes (act : Action α) (s : Session) (sites : List CallSite) (R : α → Session → Prop) : Prop where
  frame : s.Frame (act s).2
  bounds : ∀ call, s.calls call ≤ (act s).2.calls call ∧ (act s).2.calls call ≤ s.calls call + (among sites call).length
  returned : ∀ a t, act s = (.ok a, t) → R a t ∧ ∀ call, t.calls call = s.calls call + (among sites call).length
  spared : ∀ fault, (act s).2.calls fault.call < fault.nth → act (s.plan fault) = ((act s).1, (act s).2.plan fault)
  struck : ∀ fault, s.calls fault.call < fault.nth → fault.nth ≤ (act s).2.calls fault.call → ∃ site t,
    (among sites fault.call)[fault.nth - s.calls fault.call - 1]? = some site ∧
      act (s.plan fault) = (.error (site.becomes fault.failure), t) ∧ (s.plan fault).Frame t ∧
        t.calls fault.call = fault.nth ∧ ∀ call, t.calls call ≤ (act s).2.calls call

section Rules

variable {act other : Action α} {next : α → Action β} {s : Session} {sites xs ys : List CallSite}
  {R : α → Session → Prop} {Q : β → Session → Prop}

/-- An action that makes no call makes those of no place, and an action that fails before it calls makes those of
any places. -/
theorem Quiet.makes (quiet : act.Quiet)
    (returns : ∀ a t, act s = (.ok a, t) → R a t ∧ ∀ call, (among sites call).length = 0) : act.Makes s sites R where
  frame := quiet.frame s
  bounds call := by
    rw [quiet.calls]
    exact ⟨Nat.le_refl _, Nat.le_add_right _ _⟩
  returned a t run := by
    obtain ⟨known, none⟩ := returns a t run
    refine ⟨known, fun call => ?_⟩
    have calls := quiet.calls s call
    rw [run] at calls
    rw [none call]
    exact calls
  spared fault _ := quiet.plan s fault
  struck fault before late := by
    rw [quiet.calls] at late
    omega

theorem Makes.pure {a : α} (known : R a s) : (pure a : Action α).Makes s [] R := by
  refine (quiet_pure a).makes fun b t run => ?_
  cases run
  exact ⟨known, fun _ => rfl⟩

theorem Makes.fail {cause : Cause} {anchorId accountReference : Option Text} :
    (Action.fail cause anchorId accountReference : Action α).Makes s sites R :=
  (quiet_fail cause anchorId accountReference).makes fun _ _ run => nomatch congrArg Prod.fst run

theorem bind_of_ok {a : α} {t : Session} (run : act s = (.ok a, t)) : (act >>= next) s = next a t := by
  rw [bind_apply, run]

theorem bind_of_error {failure : Failure} {t : Session} (run : act s = (.error failure, t)) :
    (act >>= next) s = (.error failure, t) := by
  rw [bind_apply, run]

/-- One after the other two actions make the calls of both; a fault is met by the one whose call it is. -/
theorem Makes.bind (first : act.Makes s xs R) (rest : ∀ a t, R a t → s.Frame t → (next a).Makes t ys Q) :
    (act >>= next).Makes s (xs ++ ys) Q := by
  -- A fault that the first part meets stops the whole at that place.
  have stopped (fault : Fault) (before : s.calls fault.call < fault.nth)
      (late : fault.nth ≤ (act s).2.calls fault.call) : ∃ site t,
        (among (xs ++ ys) fault.call)[fault.nth - s.calls fault.call - 1]? = some site ∧
          (act >>= next) (s.plan fault) = (.error (site.becomes fault.failure), t) ∧ (s.plan fault).Frame t ∧
          t.calls fault.call = fault.nth ∧ ∀ call, t.calls call ≤ (act s).2.calls call := by
    obtain ⟨site, t, found, met, stops⟩ := first.struck fault before late
    refine ⟨site, t, ?_, bind_of_error met, stops⟩
    rw [among_append, List.getElem?_append_left (List.getElem?_eq_some_iff.1 found).1]
    exact found
  have framed := first.frame
  have bounds := first.bounds
  have spared := first.spared
  cases run : act s with
  | mk result t =>
      rw [run] at stopped framed bounds spared
      cases result with
      | error failure =>
          have whole : (act >>= next) s = (.error failure, t) := bind_of_error run
          refine ⟨?_, fun call => ?_, fun b u same => ?_, fun fault early => ?_, fun fault before late => ?_⟩
          · rw [whole]
            exact framed
          · rw [whole, among_append, List.length_append]
            have := bounds call
            omega
          · rw [whole] at same
            cases same
          · rw [whole] at early ⊢
            exact bind_of_error (spared fault early)
          · rw [whole] at late ⊢
            exact stopped fault before late
      | ok a =>
          have whole : (act >>= next) s = next a t := bind_of_ok run
          obtain ⟨known, made⟩ := first.returned a t run
          have second := rest a t known framed
          refine ⟨?_, fun call => ?_, fun b u same => ?_, fun fault early => ?_, fun fault before late => ?_⟩
          · rw [whole]
            exact framed.trans second.frame
          · rw [whole, among_append, List.length_append]
            have made := made call
            have onward := second.bounds call
            omega
          · rw [whole] at same
            obtain ⟨known', made'⟩ := second.returned b u same
            refine ⟨known', fun call => ?_⟩
            rw [made', made, among_append, List.length_append, Nat.add_assoc]
          · rw [whole] at early ⊢
            have reached := Nat.lt_of_le_of_lt (second.bounds fault.call).1 early
            rw [bind_of_ok (spared fault reached)]
            exact second.spared fault early
          · rw [whole] at late ⊢
            by_cases met : fault.nth ≤ t.calls fault.call
            · obtain ⟨site, u, found, failed, frame, last, fewer⟩ := stopped fault before met
              exact ⟨site, u, found, failed, frame, last, fun call => Nat.le_trans (fewer call) (second.bounds call).1⟩
            · rw [Nat.not_le] at met
              obtain ⟨site, u, found, failed, frame, stops⟩ := second.struck fault met late
              refine ⟨site, u, ?_, (bind_of_ok (spared fault met)).trans failed, ?_, stops⟩
              · have length := made fault.call
                rw [among_append, List.getElem?_append_right (by omega), ← found]
                congr 1
                omega
              · exact ⟨frame.now.trans framed.now, frame.freshId.trans framed.freshId, frame.fault⟩

theorem Quiet.makes_bind (quiet : act.Quiet)
    (rest : ∀ a t, act s = (.ok a, t) → s.Frame t → (next a).Makes t ys Q) : (act >>= next).Makes s ys Q := by
  have first : act.Makes s [] fun a t => act s = (.ok a, t) := quiet.makes fun _ _ run => ⟨run, fun _ => rfl⟩
  exact first.bind rest

theorem Makes.bind_none (first : act.Makes s xs R) (rest : ∀ a t, R a t → s.Frame t → (next a).Makes t [] Q) :
    (act >>= next).Makes s xs Q := by
  rw [← List.append_nil xs]
  exact first.bind rest

theorem Makes.map (f : α → β) (makes : act.Makes s sites R) : (f <$> act).Makes s sites fun _ _ => True := by
  rw [map_eq_pure_bind]
  exact makes.bind_none fun _ _ _ _ => .pure trivial

/-- A call is a place at which a planned failure stays what it is. -/
theorem Quiet.makes_calling {call : Call} (quiet : act.Quiet) (unfaulted : s.fault = none)
    (returns : ∀ a t, act (s.count call) = (.ok a, t) → R a t) : (calling call act).Makes s [⟨call, id⟩] R := by
  have frame := (keeps_count s call).toFrame
  have ran : calling call act s = act (s.count call) := by
    unfold calling
    simp only [planned?_unfaulted (frame.fault.trans unfaulted)]
  have planned (fault : Fault) : calling call act (s.plan fault) =
      if fault.call = call ∧ fault.nth = s.calls call + 1 then (.error fault.failure, (s.count call).plan fault)
      else ((act (s.count call)).1, (act (s.count call)).2.plan fault) := by
    have counted : (s.count call).calls call = s.calls call + 1 := by
      rw [calls_count, if_pos rfl]
    have strikes := planned?_plan (s.count call) fault call
    rw [counted] at strikes
    unfold calling
    simp only [plan_count, strikes]
    by_cases met : fault.call = call ∧ fault.nth = s.calls call + 1
    · simp only [if_pos met]
    · simp only [if_neg met]
      exact quiet.plan _ fault
  have made (other : Call) :
      (act (s.count call)).2.calls other = s.calls other + (among [⟨call, id⟩] other).length := by
    rw [quiet.calls, calls_count, among_singleton]
    by_cases same : call = other <;> simp [same]
  refine ⟨?_, fun other => ?_, fun a t run => ?_, fun fault early => ?_, fun fault before late => ?_⟩
  · rw [ran]
    exact frame.trans (quiet.frame _)
  · rw [ran, made]
    exact ⟨Nat.le_add_right _ _, Nat.le_refl _⟩
  · rw [ran] at run
    refine ⟨returns a t run, fun other => ?_⟩
    rw [← made, run]
  · rw [ran, made, among_singleton] at early
    rw [planned, ran, if_neg]
    rintro ⟨rfl, last⟩
    rw [if_pos rfl, List.length_singleton] at early
    omega
  · rw [ran, made, among_singleton] at late
    split at late
    · rename_i same
      subst same
      have last : fault.nth = s.calls fault.call + 1 := Nat.le_antisymm late before
      refine ⟨⟨fault.call, id⟩, (s.count fault.call).plan fault, ?_, ?_, ?_, ?_, fun other => ?_⟩
      · rw [among_singleton, if_pos rfl, last, Nat.add_sub_cancel_left]
        rfl
      · rw [planned, if_pos ⟨rfl, last⟩]
        rfl
      · exact ⟨frame.now, frame.freshId, rfl⟩
      · have counted := calls_count s fault.call fault.call
        rw [if_pos rfl, ← last] at counted
        exact counted
      · rw [ran, quiet.calls]
        exact Nat.le_refl _
    · rw [List.length_nil] at late
      omega

theorem Makes.execute (unfaulted : s.fault = none) {select : Store → Attempt α} :
    (execute select).Makes s [⟨.execute, id⟩] fun _ _ => True :=
  (quiet_query select).makes_calling unfaulted fun _ _ _ => trivial

theorem Makes.executeBinding (unfaulted : s.fault = none) {statement : Statement} {select : Bool → Store → Attempt α} :
    (executeBinding statement select).Makes s [⟨.execute, id⟩] fun _ _ => True :=
  (quiet_binding statement fun prepared => quiet_query (select prepared)).makes_calling unfaulted fun _ _ _ => trivial

theorem Makes.commit (unfaulted : s.fault = none) {update : Store → Attempt Store} :
    (commit update).Makes s [⟨.commit, id⟩] fun _ _ => True :=
  (quiet_write update).makes_calling unfaulted fun _ _ _ => trivial

theorem Makes.commitBinding (unfaulted : s.fault = none) {statement : Statement}
    {update : Bool → Store → Attempt Store} :
    (commitBinding statement update).Makes s [⟨.commit, id⟩] fun _ _ => True :=
  (quiet_binding statement fun prepared => quiet_write (update prepared)).makes_calling unfaulted fun _ _ _ => trivial

/-- An action that does as another but for its failures: it makes other failures of them, and is quiet about it. -/
theorem Makes.handled (handle : Except Failure α × Session → Except Failure α × Session) {outer : Failure → Failure}
    (makes : act.Makes s sites R) (ok : ∀ a t, handle (.ok a, t) = (.ok a, t))
    (quiet : ∀ failure, Quiet fun t => handle (.error failure, t))
    (error : ∀ failure t, t.now = s.now → (handle (.error failure, t)).1 = .error (outer failure)) :
    Makes (fun u => handle (act u)) s (sites.map (within outer)) R := by
  have length (call : Call) : (among (sites.map (within outer)) call).length = (among sites call).length := by
    rw [among_map_within, List.length_map]
  have handled : s.Frame (handle (act s)).2 ∧ ∀ call, (handle (act s)).2.calls call = (act s).2.calls call := by
    have framed := makes.frame
    cases run : act s with
    | mk result t =>
        rw [run] at framed
        cases result with
        | ok a =>
            rw [ok]
            exact ⟨framed, fun _ => rfl⟩
        | error failure => exact ⟨framed.trans ((quiet failure).frame t), (quiet failure).calls t⟩
  obtain ⟨frame, calls⟩ := handled
  refine ⟨frame, fun call => ?_, fun a t run => ?_, fun fault early => ?_, fun fault before late => ?_⟩
  · simp only [calls, length]
    exact makes.bounds call
  · have framed := makes.frame
    cases inner : act s with
    | mk result u =>
        simp only [inner] at run framed
        cases result with
        | ok b =>
            rw [ok] at run
            cases run
            obtain ⟨known, made⟩ := makes.returned a t inner
            refine ⟨known, fun call => ?_⟩
            rw [length]
            exact made call
        | error failure =>
            have failed := error failure u framed.now
            rw [run] at failed
            cases failed
  · simp only [calls] at early
    simp only [makes.spared fault early]
    cases act s with
    | mk result t =>
        cases result with
        | ok a =>
            rw [ok, ok]
        | error failure => exact (quiet failure).plan t fault
  · simp only [calls] at late ⊢
    obtain ⟨site, t, found, met, framed, last, fewer⟩ := makes.struck fault before late
    refine ⟨site.within outer, (handle (.error (site.becomes fault.failure), t)).2, ?_, ?_, ?_, ?_, fun call => ?_⟩
    · rw [among_map_within, List.getElem?_map, found]
      rfl
    · rw [met]
      exact Prod.ext (error _ t framed.now) rfl
    · exact framed.trans ((quiet _).frame t)
    · exact ((quiet _).calls t fault.call).trans last
    · exact Nat.le_trans (Nat.le_of_eq ((quiet _).calls t call)) (fewer call)

/-- Around a guarded action the places are those inside, where faults are classified. -/
theorem Makes.guarded {operation : Text} (makes : act.Makes s sites R) :
    (guarded operation act).Makes s (sites.map (within (Failure.classified operation s.now))) R := by
  refine makes.handled (fun outcome => Action.guarded operation (fun _ => outcome) outcome.2) (fun _ _ => rfl) ?_ ?_
  · intro failure
    cases failure with
    | storage fault => exact (quiet_log _).bind fun _ => quiet_fail _ none none
    | service e => exact quiet_raise (.service e)
    | unforeseen reason => exact quiet_raise (.unforeseen reason)
  · intro failure t same
    cases failure with
    | storage fault => exact congrArg (fun now => Except.error (Failure.classified operation now (.storage fault))) same
    | service e | unforeseen reason => rfl

/-- Where another action answers for a broken integrity and fails, its failure is that of the place. -/
theorem Makes.onIntegrity (makes : act.Makes s sites R) (instead : Failure) (quiet : other.Quiet)
    (fails : ∀ t, t.now = s.now → (other t).1 = .error instead) :
    (act.onIntegrity other).Makes s (sites.map (within (Failure.insteadOfIntegrity instead))) R := by
  refine makes.handled (fun outcome => Action.onIntegrity (fun _ => outcome) other outcome.2) (fun _ _ => rfl) ?_ ?_
  · rintro (e | (_ | _ | _ | _ | _ | _) | reason)
    case storage.integrity => exact quiet
    all_goals exact quiet_raise _
  · rintro (e | (_ | _ | _ | _ | _ | _) | reason) t same
    case storage.integrity => exact fails t same
    all_goals rfl

end Rules

end Action

end AnchorRegistry
