/-
HttpSuite/Proofs/Script/Telling.lean

What a script tells of its promises.

Of a promise something is told at two places: where it is rejected while nobody waits for it
(`tells_reject`), and where somebody waits for it after that (`tells_waitFor`).  Both say which account
the promise had before and has then, and that no other one has changed (`Says`).  All other functions
come to one of these, or tell nothing.

Main result: a step of a machine that waits for no answer tells of one promise, or of none
(`tells_step`).
-/
import HttpSuite.Proofs.Script.Rejections
import HttpSuite.Proofs.Script.Silent

namespace HttpSuite.Script

namespace Engine

variable {t : Nat → Option Bool} {old : Heap} {m : Engine}

/-! ### One promise -/

/-- What is looked up as a promise is one, or it counts as settled. -/
theorem promise_cases (m : Engine) (p : Nat) :
    (m.heap.object (.cell p)).kind = .promise (m.promise p) ∨
      (∀ s, (m.heap.object (.cell p)).kind ≠ .promise s) ∧
        m.promise p = { state := .fulfilled .undefined } := by
  unfold promise
  split
  · rename_i s hs
    exact .inl hs
  · rename_i hnone
    exact .inr ⟨hnone, rfl⟩

/-- A change of a promise changes the account of its cell and of no other. -/
theorem account_modifyPromise {p : Nat} {s : Promise}
    (hkind : (m.heap.object (.cell p)).kind = .promise s) (f : Promise → Promise) (q : Nat) :
    (m.modifyPromise p f).heap.account q =
      if q = p then (f s).account else m.heap.account q := by
  unfold Heap.account modifyPromise
  by_cases hq : q = p
  · subst hq
    have hsize : q < m.heap.cells.size := by
      refine Nat.lt_of_not_le fun hle => ?_
      have hbehind : m.heap.object (.cell q) = {} := by simp [Heap.object, hle]
      rw [hbehind] at hkind
      cases hkind
    have hcell : m.heap.Holds (.cell q) := hsize
    rw [if_pos rfl, Heap.object_modify_self hcell]
    generalize m.heap.object (.cell q) = o at hkind
    obtain ⟨parent, extensible, slots, kind⟩ := o
    obtain rfl : kind = .promise s := hkind
    rfl
  · have hne : Ref.cell p ≠ .cell q := fun heq => hq (Ref.cell.inj heq).symm
    rw [if_neg hq, Heap.object_modify_of_ne hne]

/-- A change that keeps what a promise says of itself keeps the account. -/
theorem account_modifyPromise_eq {p : Nat} {f : Promise → Promise}
    (hf : ∀ s, (m.heap.object (.cell p)).kind = .promise s → (f s).account = s.account) :
    (m.modifyPromise p f).heap.account = m.heap.account := by
  refine Heap.account_modify _ _ ?_
  generalize m.heap.object (.cell p) = o at hf
  obtain ⟨parent, extensible, slots, kind⟩ := o
  cases kind with
  | promise s => exact hf s rfl
  | _ => rfl

/-- The account of a promise that is not settled, and what it is after the promise is settled. -/
theorem account_settle {p : Nat} (hpending : (m.promise p).state = .pending) (fulfilled : Bool)
    (v : Value) :
    m.heap.account p = (if (m.promise p).handled then some true else none) ∧
      ∀ q, (m.settle p fulfilled v).heap.account q =
        if q = p then
          if (m.promise p).handled then some true else if fulfilled then none else some false
        else m.heap.account q := by
  rcases promise_cases m p with hkind | hdefault
  · -- the account reads the state and whether somebody waits, not the reactions
    simp only [settle, hpending]
    constructor
    · unfold Heap.account
      rw [hkind]
      generalize m.promise p = s at hpending
      obtain ⟨state, reactions, handled⟩ := s
      obtain rfl : state = .pending := hpending
      cases handled with
      | true => rfl
      | false => rfl
    · intro q
      refine (account_modifyPromise hkind _ q).trans ?_
      rw [Promise.account]
      cases (m.promise p).handled with
      | true => rfl
      | false =>
          cases fulfilled with
          | true => rfl
          | false => rfl
  · rw [hdefault.2] at hpending
    cases hpending

/-- After somebody waits for a promise, somebody has waited for it. -/
theorem account_waitFor {p : Nat} {s : Promise}
    (hkind : (m.heap.object (.cell p)).kind = .promise s) (r : Reaction) (q : Nat) :
    (m.waitFor p r).heap.account q = if q = p then some true else m.heap.account q := by
  have hwaits := account_modifyPromise hkind (fun s => { s with handled := true }) q
  have hs : m.promise p = s := by rw [promise, hkind]
  obtain ⟨state, reactions, handled⟩ := s
  cases state with
  | pending =>
      simp only [waitFor, hs]
      refine Eq.trans (congrFun (account_modifyPromise_eq ?_) q) hwaits
      exact fun s _ => rfl
  | fulfilled v =>
      simp only [waitFor, hs]
      exact hwaits
  | rejected v =>
      simp only [waitFor, hs]
      cases handled with
      | true => exact hwaits
      | false => exact hwaits

/-! ### What is told -/

/-- What a machine says of promises after an account. If it says nothing, at most somebody waits for
promises that were not rejected. It says of one promise that it is rejected while nobody waits for
it, or of one of these that somebody waits for it now, and all others stay as they are. -/
inductive Says (t : Nat → Option Bool) (m : Engine) : Option Notice → Prop
  | nothing (hquiet : m.control.isNotice = false)
      (hafter : ∀ p, m.heap.account p = t p ∨ t p = none ∧ m.heap.account p = some true) :
      Says t m none
  | rejected (p : Nat) (reason : String) (hcontrol : m.control = .ask (.rejected reason))
      (hbefore : t p = none)
      (hafter : ∀ q, m.heap.account q = if q = p then some false else t q) :
      Says t m (some (.rejected p reason))
  | handled (p : Nat) (hcontrol : m.control = .ask .handled) (hbefore : t p = some false)
      (hafter : ∀ q, m.heap.account q = if q = p then some true else t q) :
      Says t m (some (.handled p))

/-- Where the account stays as it is, a machine may say nothing. -/
theorem says_nothing (hquiet : m.control.isNotice = false) (haccount : m.heap.account = t) :
    ∃ n, Says t m n :=
  ⟨none, .nothing hquiet fun p => .inl (congrFun haccount p)⟩

/-- A machine says something after a heap, or nothing, and keeps what is fixed in it. -/
structure Tells (old : Heap) (m : Engine) : Prop where
  fixed : old.KeepsFixed m.heap
  told : ∃ n, Says old.account m n

/-- Once somebody has waited for a promise, this stays so. -/
theorem Tells.waited (h : Tells old m) {p : Nat} (hp : old.account p = some true) :
    m.heap.account p = some true := by
  obtain ⟨n, htold⟩ := h.told
  cases htold with
  | nothing _ hafter =>
      rcases hafter p with hsame | ⟨-, hwaited⟩
      · rw [hsame, hp]
      · exact hwaited
  | rejected q _ _ hbefore hafter =>
      have hne : p ≠ q := by
        rintro rfl
        rw [hp] at hbefore
        cases hbefore
      rw [hafter, if_neg hne, hp]
  | handled q _ hbefore hafter =>
      have hne : p ≠ q := by
        rintro rfl
        rw [hp] at hbefore
        cases hbefore
      rw [hafter, if_neg hne, hp]

@[grind ←] theorem Silent.tells (h : Silent old m) : Tells old m :=
  ⟨h.heap.fixed, says_nothing h.quiet h.heap.account⟩

/-- What is said after a heap is said after those that it keeps. -/
theorem tells_of_told {m' : Engine} (hm : old.Keeps m.heap) (hfixed : m.heap.KeepsFixed m'.heap)
    (htold : ∃ n, Says m.heap.account m' n) : Tells old m' :=
  ⟨hm.fixed.trans hfixed, hm.account ▸ htold⟩

theorem fixed_modifyPromise (m : Engine) (p : Nat) (f : Promise → Promise) :
    m.heap.KeepsFixed (m.modifyPromise p f).heap := by
  refine Heap.keepsFixed_modify m.heap (.cell p) (by simp) ?_
  split
  · rename_i hkind
    rw [hkind]
    rfl
  · rfl

theorem fixed_settle (m : Engine) (p : Nat) (fulfilled : Bool) (v : Value) :
    m.heap.KeepsFixed (m.settle p fulfilled v).heap := by
  unfold settle
  dsimp only
  split
  · exact fixed_modifyPromise m p _
  · exact .refl _

theorem fixed_reject (m : Engine) (p : Nat) (v : Value) :
    m.heap.KeepsFixed (m.reject p v).heap := by
  unfold reject
  dsimp only
  split
  · split
    · exact fixed_settle m p false v
    · exact fixed_settle m p false v
  · exact .refl _

theorem fixed_waitFor (m : Engine) (p : Nat) (r : Reaction) :
    m.heap.KeepsFixed (m.waitFor p r).heap := by
  have hwaits := fixed_modifyPromise m p fun s => { s with handled := true }
  unfold waitFor
  dsimp only
  split
  · exact hwaits.trans (fixed_modifyPromise _ p _)
  · exact hwaits
  · split
    · exact hwaits
    · exact hwaits

/-- A rejection is told if nobody waits for the promise. -/
@[grind ←] theorem tells_reject (p : Nat) (v : Value) (hm : old.Keeps m.heap) :
    Tells old (m.reject p v) := by
  refine tells_of_told hm (fixed_reject m p v) ?_
  cases hstate : (m.promise p).state with
  | pending =>
      obtain ⟨hbefore, hafter⟩ := account_settle hstate false v
      simp only [reject, hstate]
      cases hhandled : (m.promise p).handled with
      | true =>
          rw [hhandled] at hbefore hafter
          rw [if_pos rfl]
          refine says_nothing rfl (funext fun q => (hafter q).trans ?_)
          by_cases hq : q = p
          · rw [if_pos hq, hq, hbefore]
            rfl
          · rw [if_neg hq]
      | false =>
          rw [hhandled] at hbefore hafter
          rw [if_neg (by decide)]
          exact ⟨_, .rejected p _ rfl hbefore hafter⟩
  | fulfilled w =>
      simp only [reject, hstate]
      exact says_nothing rfl rfl
  | rejected reason =>
      simp only [reject, hstate]
      exact says_nothing rfl rfl

/-- That somebody waits for a promise is told if it is rejected and nobody has waited for it. -/
@[grind ←] theorem tells_waitFor (p : Nat) (r : Reaction) (hm : old.Keeps m.heap) :
    Tells old (m.waitFor p r) := by
  refine tells_of_told hm (fixed_waitFor m p r) ?_
  rcases promise_cases m p with hkind | hdefault
  · have hafter := account_waitFor hkind r
    have hbefore : m.heap.account p = (m.promise p).account := by
      rw [Heap.account, hkind]
      rfl
    have hquiet : (m.waitFor p r).control.isNotice = false →
        m.heap.account p ≠ some false → ∃ n, Says m.heap.account (m.waitFor p r) n := by
      intro hcontrol hopen
      -- without a notice only this promise can change: nobody may take it for one not waited for
      refine ⟨none, .nothing hcontrol fun q => ?_⟩
      rw [hafter]
      by_cases hq : q = p
      · rw [if_pos hq, hq]
        match haccount : m.heap.account p with
        | none => exact .inr ⟨rfl, rfl⟩
        | some true => exact .inl rfl
        | some false => exact absurd haccount hopen
      · exact .inl (if_neg hq)
    cases hs : m.promise p with
    | mk state reactions handled =>
      rw [hs] at hbefore
      cases state with
      | pending =>
          refine hquiet ?_ (by cases handled <;> simp [hbefore, Promise.account])
          simp only [waitFor, hs]
          rfl
      | fulfilled v =>
          refine hquiet ?_ (by cases handled <;> simp [hbefore, Promise.account])
          simp only [waitFor, hs]
          rfl
      | rejected v =>
          cases handled with
          | true =>
              refine hquiet ?_ (by simp [hbefore, Promise.account])
              simp only [waitFor, hs]
              rfl
          | false =>
              refine ⟨_, .handled p ?_ hbefore hafter⟩
              simp only [waitFor, hs]
              rfl
  · -- what is no promise counts as settled, and stays as it is
    obtain ⟨hnone, hsettled⟩ := hdefault
    simp only [waitFor, hsettled]
    exact says_nothing rfl (account_modifyPromise_eq fun s hs => absurd hs (hnone s))

/-! ### Settling -/

/-- Nothing is told of a promise that is fulfilled. -/
@[grind ←] theorem keeps_settle_true (p : Nat) (v : Value) (hm : old.Keeps m.heap) :
    old.Keeps (m.settle p true v).heap := by
  refine hm.trans ⟨?_, fixed_settle m p true v⟩
  cases hstate : (m.promise p).state with
  | pending =>
      obtain ⟨hbefore, hafter⟩ := account_settle hstate true v
      funext q
      rw [hafter]
      split
      · rename_i hq
        rw [hq, hbefore]
        rfl
      · rfl
  | fulfilled w => simp only [settle, hstate]
  | rejected reason => simp only [settle, hstate]

@[grind =] theorem heap_enqueue (j : Job) : (m.enqueue j).heap = m.heap := rfl

@[grind ←] theorem silent_resolveWith (p : Nat) (v : Value) (hm : old.Keeps m.heap) :
    Silent old (m.resolveWith p v) := by
  unfold resolveWith
  grind

@[grind ←] theorem tells_resolve (p : Nat) (v : Value) (hm : old.Keeps m.heap) :
    Tells old (m.resolve p v) := by
  unfold resolve
  grind

@[grind ←] theorem tells_settleBy (settler : Settler) (fulfils : Bool) (v : Value)
    (hm : old.Keeps m.heap) : Tells old (m.settleBy settler fulfils v) := by
  unfold settleBy
  grind

@[grind ←] theorem keeps_promiseFor (v : Value) (hm : old.Keeps m.heap) :
    old.Keeps (m.promiseFor v).2.heap := by
  have hnew := (silent_resolveWith m.makePromise.1 v (keeps_makePromise hm)).heap
  unfold promiseFor
  dsimp only
  split
  · split
    · exact hm
    · exact hnew
  · exact hnew

@[grind ←] theorem keeps_makeSettlers (p : Nat) (hm : old.Keeps m.heap) :
    old.Keeps (m.makeSettlers p).2.2.2.heap := by
  unfold makeSettlers makeFlag
  grind

/-- A flag that is not set is no promise. -/
@[grind ←] theorem keeps_setFlag {flag : Nat} (hflag : m.isSet flag = false)
    (hm : old.Keeps m.heap) : old.Keeps (m.setFlag flag).heap := by
  unfold isSet at hflag
  split at hflag
  · rename_i set hset
    refine hm.modify_cell flag ?_ ?_
    · rw [hset]
      rfl
    · rw [hset]
      rfl
  · cases hflag

@[grind ←] theorem tells_startJob (j : Job) (hm : old.Keeps m.heap) :
    Tells old (m.startJob j) := by
  unfold startJob
  grind

@[grind ←] theorem tells_suspend (v : Value) (hm : old.Keeps m.heap) :
    Tells old (m.suspend v) := by
  unfold suspend
  grind

/-! ### The library -/

@[grind ←] theorem silent_callThen (v : Value) (args : List Value) (hm : old.Keeps m.heap) :
    Silent old (m.callThen v args) := by
  unfold callThen
  grind

@[grind ←] theorem tells_withSpecies {v : Value} {next : Option Value → Engine}
    (hm : old.Keeps m.heap) (hnext : ∀ c, Tells old (next c)) :
    Tells old (m.withSpecies v next) := by
  unfold withSpecies
  grind

/-! Several promises -/

@[grind ←] theorem keeps_countDown (missing : Nat) (hm : old.Keeps m.heap) :
    old.Keeps (m.countDown missing).2.heap := by
  unfold countDown
  grind

@[grind ←] theorem keeps_countUp (missing : Nat) (hm : old.Keeps m.heap) :
    old.Keeps (m.countUp missing).heap := by
  unfold countUp
  grind

@[grind ←] theorem keeps_putOutcome (s : Several) (index : Nat) (v : Value)
    (hm : old.Keeps m.heap) : old.Keeps (m.putOutcome s index v).heap :=
  hm.modify_cell s.outcomes (Object.account_put _ _ v) (Object.builtin?_put _ _ v)

@[grind ←] theorem silent_arrive (s : Several) (hm : old.Keeps m.heap) :
    Silent old (m.arrive s) := by
  unfold arrive
  grind

@[grind ←] theorem silent_collectOutcome (s : Several) (index : Nat) (fulfilled : Bool)
    (v : Value) (hm : old.Keeps m.heap) : Silent old (m.collectOutcome s index fulfilled v) := by
  unfold collectOutcome
  grind

@[grind ←] theorem silent_gatherOn (s : Several) (index : Nat) (l : List Value)
    (hm : old.Keeps m.heap) : Silent old (m.gatherOn s index l) := by
  unfold gatherOn
  grind

@[grind ←] theorem silent_waitNext (s : Several) (index : Nat) (rest : List Value)
    (q yes no : Value) (hm : old.Keeps m.heap) : Silent old (m.waitNext s index rest q yes no) := by
  unfold waitNext
  grind

@[grind ←] theorem silent_gatherNext (s : Several) (index : Nat) (rest : List Value) (q : Value)
    (hm : old.Keeps m.heap) : Silent old (m.gatherNext s index rest q) := by
  have hflag : old.Keeps m.makeFlag.2.heap := hm.allocate rfl
  unfold gatherNext
  dsimp only
  split
  · exact silent_waitNext s index rest q _ _ hflag
  · exact silent_waitNext s index rest q _ _ (hflag.makeBuiltin _ _)
  · exact silent_waitNext s index rest q _ _
      (keeps_putOutcome s index .undefined (hflag.makeBuiltin _ _))
  · exact silent_waitNext s index rest q _ _ ((hflag.makeBuiltin _ _).makeBuiltin _ _)

@[grind ←] theorem silent_gatherAll (s : Several) (values : Value) (hm : old.Keeps m.heap) :
    Silent old (m.gatherAll s values) := by
  unfold gatherAll
  grind

@[grind ←] theorem silent_gather (g : Gathering) (constructor values made fulfil reject : Value)
    (hm : old.Keeps m.heap) : Silent old (m.gather g constructor values made fulfil reject) :=
  silent_gatherAll _ values ((hm.allocate rfl).allocate rfl)

/-! New promises -/

@[grind ←] theorem tells_usePromise (use : PromiseUse) (made : Value) (settler : Settler)
    (hm : old.Keeps m.heap) : Tells old (m.usePromise use made settler) := by
  unfold usePromise
  grind

@[grind ←] theorem tells_newPromise (constructor : Option Value) (use : PromiseUse)
    (hm : old.Keeps m.heap) : Tells old (m.newPromise constructor use) := by
  unfold newPromise
  grind

@[grind ←] theorem silent_keepSettlers (functions : Nat) (fulfil reject : Value)
    (hm : old.Keeps m.heap) : Silent old (m.keepSettlers functions fulfil reject) := by
  unfold keepSettlers
  grind

@[grind ←] theorem tells_takePromise (functions : Nat) (use : PromiseUse) (made : Value)
    (hm : old.Keeps m.heap) : Tells old (m.takePromise functions use made) := by
  unfold takePromise
  grind

@[grind ←] theorem tells_chain (p : Nat) (yes no : Value) (hm : old.Keeps m.heap) :
    Tells old (m.chain p yes no) :=
  tells_withSpecies hm fun c => tells_newPromise c _ hm

@[grind ←] theorem tells_resolveIn (constructor : Option Value) (v : Value)
    (hm : old.Keeps m.heap) : Tells old (m.resolveIn constructor v) := by
  unfold resolveIn
  grind

@[grind ←] theorem silent_constructPromise (executor target : Value) (hm : old.Keeps m.heap) :
    Silent old (m.constructPromise executor target) := by
  unfold constructPromise
  grind

@[grind ←] theorem tells_callPromise (f : PromiseFunction) (this : Value) (args : List Value)
    (hm : old.Keeps m.heap) : Tells old (m.callPromise f this args) := by
  unfold callPromise
  grind

@[grind ←] theorem tells_passOn (constructor : Option Value) (outcome : Value) (fulfilled : Bool)
    (v : Value) (hm : old.Keeps m.heap) : Tells old (m.passOn constructor outcome fulfilled v) := by
  unfold passOn
  grind

@[grind ←] theorem silent_ask {q : Request} (hm : old.Keeps m.heap)
    (hq : (Control.ask q).isNotice = false) : Silent old (m.ask q) :=
  ⟨hm, hq⟩

@[grind ←] theorem silent_selectFrom (v : Json) (path : String) (hm : old.Keeps m.heap) :
    Silent old (m.selectFrom v path) := by
  unfold selectFrom
  grind

@[grind ←] theorem silent_selectPath (v : Value) (path : String) (hm : old.Keeps m.heap) :
    Silent old (m.selectPath v path) := by
  unfold selectPath
  grind

/-- What a script asks through the functions of its host is no notice. -/
@[grind ←] theorem silent_actHost (f : HostFunction) (args : List Value)
    (hm : old.Keeps m.heap) : Silent old (m.actHost f args) := by
  unfold actHost
  cases f with
  | _ => grind

@[grind ←] theorem silent_withTexts (f : HostFunction) (args : List Value)
    (hm : old.Keeps m.heap) : Silent old (m.withTexts f args) := by
  unfold withTexts
  grind

@[grind ←] theorem silent_callHost (f : HostFunction) (args : List Value)
    (hm : old.Keeps m.heap) : Silent old (m.callHost f args) := by
  unfold callHost needing
  grind

/-! ### Steps -/

@[grind ←] theorem tells_startCall (f this : Value) (args : List Value) (hm : old.Keeps m.heap) :
    Tells old (m.startCall f this args) := by
  unfold startCall callBuiltin
  grind

@[grind ←] theorem silent_startConstruct (f : Value) (args : List Value) (target : Value)
    (hm : old.Keeps m.heap) : Silent old (m.startConstruct f args target) := by
  unfold startConstruct
  grind

@[grind ←] theorem silent_takeMade (scope : Nat) (v : Value) (hm : old.Keeps m.heap) :
    Silent old (m.takeMade scope v) := by
  unfold takeMade setReceiver
  grind

@[grind ←] theorem silent_endDerived (scope : Nat) (v : Value) (hm : old.Keeps m.heap) :
    Silent old (m.endDerived scope v) := by
  unfold endDerived
  grind

@[grind ←] theorem tells_resumeWith (f : Frame) (v : Value) (hm : old.Keeps m.heap) :
    Tells old (m.resumeWith f v) := by
  unfold resumeWith
  cases f with
  | _ => grind

@[grind ←] theorem silent_runFinalizer (finalizer : Option (List Stmt)) (c : Completion)
    (scope : Nat) (hm : old.Keeps m.heap) : Silent old (m.runFinalizer finalizer c scope) := by
  unfold runFinalizer
  grind

@[grind ←] theorem silent_runHandler (h : Handler) (v : Value) (scope : Nat)
    (hm : old.Keeps m.heap) : Silent old (m.runHandler h v scope) := by
  unfold runHandler
  grind

@[grind ←] theorem silent_afterTurn {c : Completion} {next : Engine → Engine}
    (hm : old.Keeps m.heap) (hnext : Silent old (next m)) : Silent old (m.afterTurn c next) := by
  unfold afterTurn
  grind

@[grind ←] theorem tells_resume (f : Frame) (c : Completion) (hm : old.Keeps m.heap) :
    Tells old (m.resume f c) := by
  unfold resume
  grind

/-- **One step**: a step tells nothing of promises, or of one promise what becomes of it. -/
theorem tells_step (m : Engine) (hm : m.control.isNotice = false) :
    Tells m.heap m.step := by
  have hself : Silent m.heap m := ⟨.refl _, hm⟩
  unfold step
  grind

end Engine

end HttpSuite.Script
