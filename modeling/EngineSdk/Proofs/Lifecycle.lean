import Mathlib
import EngineSdk.Session.Plugin
import EngineSdk.Proofs.Startup

/-!
# Loading and unloading the plugin

The game may load and unload the plugin any number of times in one process, while the engine's
interfaces and the SDK are set once per process.  A load after the SDK was started finds it
started, takes that as success, and starts nothing; an unload drops every listener and every
cached offset and clears the engine's global variables pointer, which only a start binds.

* `KeepsStarted x`: run from a session whose SDK is started, `x` leaves the engine and the SDK as
  they are, whether it panics or not.  Every step of a load has it, so a load has it
  (`pluginLoad_keepsStarted`).
* `unload_run`: what an unload leaves, from any session.
* `runAll_of_started`: over every sequence of loads and unloads from a session whose SDK is
  started, the SDK and the engine stay, and the global variables pointer is unset from the first
  unload on: no load binds it again.
-/

namespace EngineSdk.Run

open StandIn

/-! ### Steps that leave a started SDK alone -/

/-- Run from a session whose SDK is started, `x` leaves the engine and the SDK as they are,
whether it panics or not. -/
def KeepsStarted {α : Type} (x : Run α) : Prop :=
  ∀ s : Session, s.sdk.isSome → (x.run.run s).2.engine = s.engine ∧ (x.run.run s).2.sdk = s.sdk

namespace KeepsStarted

variable {α β : Type}

protected theorem pure (a : α) : KeepsStarted (pure a : Run α) :=
  fun _ _ => ⟨rfl, rfl⟩

protected theorem get : KeepsStarted (get : Run Session) :=
  fun _ _ => ⟨rfl, rfl⟩

protected theorem modify {f : Session → Session}
    (h : ∀ s, (f s).engine = s.engine ∧ (f s).sdk = s.sdk) : KeepsStarted (modify f : Run PUnit)
  :=
  fun s _ => h s

/-- The second step starts from a session whose SDK is still started. -/
protected theorem bind {x : Run α} {f : α → Run β} (hx : KeepsStarted x)
    (hf : ∀ a, KeepsStarted (f a)) : KeepsStarted (x >>= f)
  := by
  intro s hs
  have hx' := hx s hs
  rw [run_run_bind]
  rcases hrun : x.run.run s with ⟨_ | a, s₁⟩
  · rw [hrun] at hx'
    exact hx'
  · rw [hrun] at hx'
    obtain ⟨hengine, hsdk⟩ := hx'
    have hf' := hf a s₁ (by rw [hsdk]; exact hs)
    exact ⟨hf'.1.trans hengine, hf'.2.trans hsdk⟩

/-- A handler runs from the session the panic left, whose SDK is still started. -/
protected theorem tryCatch {x : Run α} {h : Panic → Run α} (hx : KeepsStarted x)
    (hh : ∀ p, KeepsStarted (h p)) : KeepsStarted (tryCatch x h)
  := by
  intro s hs
  have hx' := hx s hs
  rw [run_run_tryCatch]
  rcases hrun : x.run.run s with ⟨p | a, s₁⟩
  · rw [hrun] at hx'
    obtain ⟨hengine, hsdk⟩ := hx'
    have hh' := hh p s₁ (by rw [hsdk]; exact hs)
    exact ⟨hh'.1.trans hengine, hh'.2.trans hsdk⟩
  · rw [hrun] at hx'
    exact hx'

end KeepsStarted

theorem call_keepsStarted (p : Ptr) (key : String) (d : Nat) (args : List Arg) :
  KeepsStarted (call p key d args)
  := by
  intro s _
  obtain ⟨o, w, h⟩ := call_run p key d args s
  rw [h]
  exact ⟨rfl, rfl⟩

theorem onCache_keepsStarted {α : Type} (l : Netvar.Lookup α) : KeepsStarted (onCache l) := by
  intro s _
  unfold onCache
  rw [run_run_bind, run_run_get]
  dsimp only
  rcases l.run.run s.cache with ⟨_ | _, _⟩ <;> exact ⟨rfl, rfl⟩

theorem classHead_keepsStarted : KeepsStarted classHead := by
  unfold classHead
  refine .bind (fun _ _ => ⟨rfl, rfl⟩) fun e => ?_
  cases e with
  | none => exact .pure _
  | some _ =>
    refine .bind (call_keepsStarted _ _ _ _) fun o => ?_
    cases o with
    | none => exact .pure _
    | some o =>
      dsimp only
      split
      · exact .bind .get fun _ => .pure _
      · exact .pure _

/-- Resolving the wrappers' properties changes only the offset cache and the stand-in engine. -/
theorem prefetchNetvars_keepsStarted : KeepsStarted prefetchNetvars :=
  .bind classHead_keepsStarted fun _ => onCache_keepsStarted _

/-- Reading the settings changes only the files, even when it panics. -/
theorem loadCoreConfig_keepsStarted : KeepsStarted loadCoreConfig := by
  intro s _
  unfold loadCoreConfig
  rw [run_run_bind, run_run_get]
  dsimp only
  split <;> exact ⟨rfl, rfl⟩

theorem installGamedata_keepsStarted (path : String) : KeepsStarted (installGamedata path) := by
  unfold installGamedata readFile
  refine .bind (.bind .get fun _ => .pure _) fun r => ?_
  cases r with
  | error f => exact .pure _
  | ok text =>
    dsimp only
    split
    · exact .pure _
    · refine .bind .get fun s => ?_
      split
      · exact .pure _
      · exact .bind (.modify fun _ => ⟨rfl, rfl⟩) fun _ => .pure _

/-- A start finds a started SDK and answers so at once. -/
theorem sdkInitWith_keepsStarted (r : ModuleResolver Ptr) (g : Gamedata)
    (supplied : ModuleFactories Ptr) : KeepsStarted (sdkInitWith r g supplied)
  := by
  intro s hs
  unfold sdkInitWith
  rw [run_run_bind, run_run_get]
  dsimp only
  rw [if_pos hs]
  exact ⟨rfl, rfl⟩

theorem sdkInit_keepsStarted (g : Gamedata) (supplied : List (Factory Ptr)) :
  KeepsStarted (sdkInit g supplied)
  :=
  .bind (.bind .get fun _ => .pure _) fun r => sdkInitWith_keepsStarted r g _

theorem pluginGamedata_keepsStarted (config : CoreConfig) :
  KeepsStarted (pluginGamedata config)
  := by
  unfold pluginGamedata
  refine .bind .get fun s => ?_
  split
  · exact .pure _
  · refine .bind (installGamedata_keepsStarted _) fun r => ?_
    split <;> exact .pure _

/-- A load made once the SDK is started leaves the engine and the SDK as they are. -/
theorem pluginLoad_keepsStarted (supplied : List (Factory Ptr)) :
  KeepsStarted (pluginLoad supplied)
  := by
  unfold pluginLoad pluginLoadSteps
  refine .tryCatch (.bind loadCoreConfig_keepsStarted fun config => ?_) fun _ => .pure _
  refine .bind (pluginGamedata_keepsStarted config) fun g =>
    .bind (sdkInit_keepsStarted g supplied) fun res => ?_
  dsimp only
  split
  · split
    · exact .bind prefetchNetvars_keepsStarted fun _ => .pure _
    · exact .pure _
  · split
    · exact .bind prefetchNetvars_keepsStarted fun _ => .pure _
    · exact .pure _
  · exact .pure _

/-! ### Unloading -/

/-- An unload never panics: it drops every listener and every cached offset and clears the
engine's global variables pointer, and keeps the rest of the engine and the SDK. -/
theorem unload_run (s : Session) :
  Plugin.unload.run.run s =
    (.ok (), { s with
      listeners := s.listeners.clear
      cache := Netvar.OffsetCache.empty
      engine := s.engine.map fun e => { e with globalVars := none } })
  :=
  rfl

/-! ### Loads and unloads in turn -/

/-- A call the game makes on the plugin. -/
inductive PluginCall where
  /-- Loads the plugin with the factories the game passes. -/
  | load (supplied : List (Factory Ptr))
  /-- Unloads the plugin. -/
  | unload

namespace PluginCall

/-- Whether the call is an unload. -/
def isUnload : PluginCall → Bool
  | load _ => false
  | unload => true

/-- Makes one call; a load's answer is dropped. -/
def run : PluginCall → Run Unit
  | load supplied => do
    let _ ← pluginLoad supplied
    pure ()
  | unload => Plugin.unload

/-- Makes the calls in turn. -/
def runAll : List PluginCall → Run Unit
  | [] => pure ()
  | c :: cs => do
    c.run
    runAll cs

/-- A call never panics: a load catches a panic of its own, and so does an unload. -/
theorem run_ok (c : PluginCall) (s : Session) : (c.run.run.run s).1 = .ok () := by
  cases c with
  | load supplied =>
    unfold run pluginLoad
    rw [run_run_bind, run_run_tryCatch]
    rcases (pluginLoadSteps supplied).run.run s with ⟨_ | _, _⟩ <;> rfl
  | unload => rfl

/-- One call from a session whose SDK is started keeps the SDK and the engine's objects; a load
leaves the global variables pointer as it is, and an unload clears it. -/
theorem run_of_started (c : PluginCall) (s : Session) (hs : s.sdk.isSome) :
  (c.run.run.run s).2.sdk = s.sdk ∧
    (c.run.run.run s).2.engine.map (·.objects) = s.engine.map (·.objects) ∧
    (c.run.run.run s).2.engine.bind (·.globalVars) =
      if c.isUnload then none else s.engine.bind (·.globalVars)
  := by
  cases c with
  | load supplied =>
    have hkeep : KeepsStarted (load supplied).run :=
      .bind (pluginLoad_keepsStarted supplied) fun _ => .pure _
    obtain ⟨hengine, hsdk⟩ := hkeep s hs
    rw [hengine, hsdk]
    exact ⟨rfl, rfl, rfl⟩
  | unload =>
    rw [run, unload_run]
    refine ⟨rfl, ?_, ?_⟩ <;> cases s.engine <;> rfl

/-- Calls in turn from a session whose SDK is started keep the SDK and the engine's objects, and
leave the global variables pointer unset once any of them was an unload: no load binds it
again. -/
theorem runAll_of_started (calls : List PluginCall) (s : Session) (hs : s.sdk.isSome) :
  ((runAll calls).run.run s).2.sdk = s.sdk ∧
    ((runAll calls).run.run s).2.engine.map (·.objects) = s.engine.map (·.objects) ∧
    ((runAll calls).run.run s).2.engine.bind (·.globalVars) =
      if calls.any isUnload then none else s.engine.bind (·.globalVars)
  := by
  induction calls generalizing s with
  | nil => exact ⟨rfl, rfl, rfl⟩
  | cons c cs ih =>
    obtain ⟨hsdk₁, hobj₁, hvars₁⟩ := c.run_of_started s hs
    have hok := c.run_ok s
    unfold runAll
    rw [run_run_bind]
    rcases hrun : c.run.run.run s with ⟨_ | _, s₁⟩
    · rw [hrun] at hok
      cases hok
    · rw [hrun] at hsdk₁ hobj₁ hvars₁
      obtain ⟨hsdk₂, hobj₂, hvars₂⟩ := ih s₁ (by rw [hsdk₁]; exact hs)
      refine ⟨hsdk₂.trans hsdk₁, hobj₂.trans hobj₁, ?_⟩
      rw [hvars₂, List.any_cons]
      cases hcs : cs.any isUnload with
      | true => simp
      | false =>
        rw [Bool.or_false, if_neg Bool.false_ne_true]
        exact hvars₁

end PluginCall

/-- An unload leaves no listener, no cached offset and no global variables pointer, from any
session.  Once the SDK is started, every later sequence of loads and unloads keeps the SDK and
the engine's objects, and from its first unload on leaves the pointer unset: a load after an
unload does not bind it again. -/
theorem unload_clears_and_reload_leaves_global_vars_unset (s : Session)
    (calls : List PluginCall) :
  ((Plugin.unload.run.run s).2.listeners.count = 0 ∧
    (Plugin.unload.run.run s).2.cache = Netvar.OffsetCache.empty ∧
    (Plugin.unload.run.run s).2.engine.bind (·.globalVars) = none) ∧
  (s.sdk = none ∨
    ((PluginCall.runAll calls).run.run s).2.sdk = s.sdk ∧
      ((PluginCall.runAll calls).run.run s).2.engine.map (·.objects) =
        s.engine.map (·.objects) ∧
      ((PluginCall.runAll calls).run.run s).2.engine.bind (·.globalVars) =
        if calls.any PluginCall.isUnload then none else s.engine.bind (·.globalVars))
  := by
  refine ⟨?_, ?_⟩
  · rw [unload_run]
    refine ⟨ListenerRegistry.count_clear _, rfl, ?_⟩
    cases s.engine <;> rfl
  · by_cases hs : s.sdk.isSome
    · exact .inr (PluginCall.runAll_of_started calls s hs)
    · exact .inl (Option.not_isSome_iff_eq_none.mp hs)

end EngineSdk.Run
