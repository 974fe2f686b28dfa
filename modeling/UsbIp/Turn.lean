import UsbIp.Locks

/-
The two models of `handler` agree.  One turn of the loop at lock granularity,
run by the session alone while the locks are free, takes the same registry to
the same registry and ends where the atomic turn `handlerStep` of
`UsbIp.Handler` ends.  Each atomic turn is simulated by up to eleven steps of
one task: its queueings, its acquisitions and its critical sections.
-/

namespace UsbIp

/-- The turn's input, as the environment of the lock-level steps gives it. -/
def Env.input (env : Env) : Input :=
  match env.read with
  | .error err => .readError err
  | .ok cmd => .command cmd env.urb env.write

namespace Sys

variable {s : Sys} {t : Nat}

theorem run_append (s : Sys) (a b : List (Nat × Act)) :
    s.run (a ++ b) = (s.run a).bind (·.run b) := by
  induction a generalizing s with
  | nil => rfl
  | cons step rest ih =>
      simp only [List.cons_append, run]
      cases s.next step.1 step.2 <;> simp [ih]

/-- No task queues for a lock, and no task other than `t` holds one. -/
structure Free (s : Sys) (t : Nat) : Prop where
  queues : ∀ l, s.queue l = []
  others : ∀ u ≠ t, ∀ l, (s.task u).holds l = none

theorem grantable_of_free (hfree : s.Free t) (l : LockId) (m : Mode) :
    s.grantable t l m = true :=
  List.all_eq_true.mpr fun u _ => by
    by_cases hu : u = t
    · simp [hu]
    · simp [hfree.others u hu l, Compatible]

/-- From free locks, queueing for a lock and taking it at once. -/
theorem run_enqueue_acquire (hfree : s.Free t) {l : LockId} {m : Mode}
    (hw : (s.task t).wants = some (l, m)) :
    s.run [(t, .enqueue), (t, .acquire)] = some { s with
      tasks := s.tasks.set t (s.task t).granted
      writeOrder := if (l, m) = (.available, .write) then s.writeOrder ++ [t]
        else s.writeOrder } := by
  have hq := hfree.queues l
  have h₁ : s.next t .enqueue = some { s with queue := Function.update s.queue l [t] } := by
    simp [next, hw, hq]
  have hw₁ : (({ s with queue := Function.update s.queue l [t] } : Sys).task t).wants =
      some (l, m) := hw
  have hg : ({ s with queue := Function.update s.queue l [t] } : Sys).grantable t l m = true :=
    grantable_of_free hfree l m
  have hqueue : Function.update (Function.update s.queue l [t]) l [] = s.queue := by
    rw [Function.update_idem, ← hq, Function.update_eq_self]
  simp only [run]
  rw [h₁]
  simp only [Option.some_bind, next, hw₁, Function.update_same, List.head?_cons, hg, and_self,
    if_true, List.tail_cons, hqueue]
  rfl

theorem run_body {env : Env} {server' : UsbIpServer} {p' : Pc} {entries : List Entry}
    (hb : (s.task t).body t s.server env = some (server', p', entries)) :
    s.run [(t, .body env)] = some { s with
      server := server'
      tasks := s.tasks.set t p'
      log := s.log ++ entries } := by
  simp [run, next, hb]

/-- Task `t` reaches program counter `p` and registry `server` by steps of its
own, which leave the locks free and every other task where it was. -/
def SoloTo (s : Sys) (t : Nat) (p : Pc) (server : UsbIpServer) : Prop :=
  ∃ schedule s', (∀ a ∈ schedule, a.1 = t) ∧ s.run schedule = some s' ∧ s'.Free t ∧
    s'.task t = p ∧ s'.server = server ∧ s'.tasks.length = s.tasks.length ∧
    ∀ u ≠ t, s'.task u = s.task u

theorem SoloTo.refl (hfree : s.Free t) : s.SoloTo t (s.task t) s.server :=
  ⟨[], s, fun _ h => absurd h (List.not_mem_nil _), rfl, hfree, rfl, rfl, rfl, fun _ _ => rfl⟩

/-- Extending a solo run by steps of `t` that keep the queues and change only
the registry and `t`'s program counter. -/
theorem SoloTo.step {p p' : Pc} {server server' : UsbIpServer} (ht : t < s.tasks.length)
    (h : s.SoloTo t p server)
    (hstep : ∀ s₁ : Sys, s₁.Free t → s₁.task t = p → s₁.server = server →
      ∃ more s₂, (∀ a ∈ more, a.1 = t) ∧ s₁.run more = some s₂ ∧ s₂.queue = s₁.queue ∧
        s₂.server = server' ∧ s₂.tasks = s₁.tasks.set t p') :
    s.SoloTo t p' server' := by
  obtain ⟨schedule, s₁, hsched, hrun, hfree, hp, hserver, hlen, hothers⟩ := h
  obtain ⟨more, s₂, hmore, hrun₂, hqueue, hserver₂, htasks⟩ := hstep s₁ hfree hp hserver
  have htask : ∀ u, s₂.task u = if u = t then p' else s₁.task u := fun u => by
    show s₂.tasks.getD u _ = _
    rw [htasks]
    exact task_set s₁ p' (hlen ▸ ht) s₂.server s₂.queue s₂.log s₂.writeOrder u
  refine ⟨schedule ++ more, s₂, fun a ha => ?_, by rw [run_append, hrun, Option.some_bind, hrun₂],
    ⟨fun l => by rw [hqueue, hfree.queues l], fun u hu l => ?_⟩, by rw [htask, if_pos rfl],
    hserver₂, by rw [← hlen, htasks, List.length_set], fun u hu => ?_⟩
  · rcases List.mem_append.mp ha with ha | ha
    exacts [hsched a ha, hmore a ha]
  · rw [htask, if_neg hu]
    exact hfree.others u hu l
  · rw [htask, if_neg hu, hothers u hu]

theorem SoloTo.acquire {p : Pc} {server : UsbIpServer} {l : LockId} {m : Mode}
    (ht : t < s.tasks.length) (h : s.SoloTo t p server) (hw : p.wants = some (l, m)) :
    s.SoloTo t p.granted server :=
  h.step ht fun _ hfree hp hserver =>
    ⟨_, _, by simp, run_enqueue_acquire hfree (hp ▸ hw), rfl, hserver, by rw [hp]⟩

/-- Running the code between two acquisitions; the log entries it adds do not
matter here. -/
theorem SoloTo.body {p p' : Pc} {server server' : UsbIpServer}
    (ht : t < s.tasks.length) (h : s.SoloTo t p server) (env : Env)
    (hb : (p.body t server env).map (fun r => (r.1, r.2.1)) = some (server', p')) :
    s.SoloTo t p' server' := by
  obtain ⟨⟨_, _, entries⟩, hbody, heq⟩ := Option.map_eq_some'.mp hb
  obtain ⟨rfl, rfl⟩ := Prod.mk.inj heq
  exact h.step ht fun _ _ hp hserver =>
    ⟨[(t, .body env)], _, by simp, run_body (by rw [hp, hserver]; exact hbody), rfl, rfl, rfl⟩

end Sys

/-- A turn of a session at lock granularity, run by the session alone from
free locks, does what the atomic turn does: it ends with the registry and at
the program counter of the outcome that `handlerStep` gives for the same input. -/
theorem turn_refines_handlerStep {s : Sys} {t : Nat} {cur : Option String} (env : Env)
    (hfree : s.Free t) (ht : t < s.tasks.length) (htop : s.task t = .top cur) :
    s.SoloTo t (handlerStep s.server cur env.input).2.1.toPc
      (handlerStep s.server cur env.input).1 := by
  have h₀ : s.SoloTo t (.top cur) s.server := htop ▸ Sys.SoloTo.refl hfree
  obtain ⟨read, urb, write⟩ := env
  cases read with
  | error err =>
      cases cur with
      | none => exact h₀.body ht ⟨.error err, urb, write⟩ rfl
      | some devId =>
          have h₃ : s.SoloTo t (.releaseBody devId (readErrorResult err)) s.server :=
            ((h₀.body ht ⟨.error err, urb, write⟩ rfl).acquire ht rfl).acquire ht rfl
          simp only [Env.input, handlerStep]
          split <;> rename_i hrel <;>
            exact h₃.body ht ⟨.error err, urb, write⟩ (by simp [Pc.body, hrel])
  | ok cmd =>
      have h₂ : s.SoloTo t (.dispatch cur cmd) s.server :=
        (h₀.body ht ⟨.ok cmd, urb, write⟩ rfl).acquire ht rfl
      cases cmd with
      | opReqDevlist =>
          have h₄ : s.SoloTo t (.devlistBody cur) s.server :=
            (h₂.body ht ⟨.ok .opReqDevlist, urb, write⟩ rfl).acquire ht rfl
          exact h₄.body ht ⟨.ok .opReqDevlist, urb, write⟩ rfl
      | opReqImport busid =>
          have h₅ : s.SoloTo t (.importBody busid) s.server :=
            ((h₂.body ht ⟨.ok (.opReqImport busid), urb, write⟩ rfl).acquire ht rfl).acquire ht rfl
          simp only [Env.input, handlerStep]
          refine h₅.body ht ⟨.ok (.opReqImport busid), urb, write⟩ ?_
          simp only [Pc.body]
          rcases himp : s.server.importDevice busid with ⟨server', _ | dev⟩
          · rfl
          · cases hlookup : server'.usedDevices.lookup dev.busId <;> simp [hlookup]
      | usbipCmdSubmit header =>
          simp only [Env.input, handlerStep]
          split <;> rename_i hlookup <;>
            exact h₂.body ht ⟨.ok (.usbipCmdSubmit header), urb, write⟩ (by simp [Pc.body, hlookup])
      | usbipCmdUnlink header => exact h₂.body ht ⟨.ok (.usbipCmdUnlink header), urb, write⟩ rfl

theorem turn_refines_handlerStep_import :
    (handlerStep (.newSimulated [testDevice]) none envImport.input).2.1 = .next (some "0-0-0") ∧
    (Sys.init [testDevice] [.top none]).SoloTo 0
      (handlerStep (.newSimulated [testDevice]) none envImport.input).2.1.toPc
      (handlerStep (.newSimulated [testDevice]) none envImport.input).1 :=
  ⟨by decide, turn_refines_handlerStep envImport
    ⟨fun _ => rfl, fun u hu _ => by cases u with
      | zero => exact absurd rfl hu
      | succ u => rfl⟩ (by decide) rfl⟩

end UsbIp
