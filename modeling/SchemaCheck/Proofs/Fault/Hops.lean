import SchemaCheck.Plugin
import SchemaCheck.Proofs.Client.Cache
import SchemaCheck.Proofs.Message.Framing

/-!
# Faults on their way to a caller

Between a fault and the caller who sees it there are hops: a client that remembers a failed listing,
or a provider that sends the fault over the wire. After any hops the code is that of the fault
(`Fault.exists_crossAll`), so that callers can decide by it. The text is left alone by a cache, and
each time it is sent it becomes the message of a fault that names the code once more
(`Fault.code_survives`).
-/

namespace SchemaCheck

namespace Fault

/-- What a fault passes on its way. -/
inductive Hop where
  /-- A client remembers a failed listing. -/
  | cache
  /-- The fault is sent in place of an answer, and read. -/
  | wire
  deriving DecidableEq

/-- The fault that is seen after a hop. -/
def cross (f : Fault) : Hop → Result Fault
  | .cache => .ok (.shared f)
  | .wire => do
    let m ← FaultMessage.codec.ofBytes (FaultMessage.codec.toBytes (FaultMessage.ofFault f))
    return m.fault

/-- The fault that is seen after hops, the first one first. -/
def crossAll (f : Fault) : List Hop → Result Fault
  | [] => .ok f
  | hop :: hops => do
    let g ← f.cross hop
    g.crossAll hops

/-- The text of a fault that was sent a number of times. -/
def told (code : FaultCode) (text : String) : Nat → String
  | 0 => text
  | n + 1 => "Provider error (" ++ code.name ++ "): " ++ told code text n

/-- What comes of a fault on its way. -/
structure Travels (f : Fault) : Prop where
  arrives : ∀ hops, ∃ g, f.crossAll hops = .ok g ∧ g.code = f.code ∧
    g.message = told f.code f.message (hops.count .wire)
  /-- After one hop more the text is the same, if the hop is a cache, -/
  cached : ∀ hops g, f.crossAll hops = .ok g →
    ∃ g', f.crossAll (hops ++ [.cache]) = .ok g' ∧ g'.message = g.message
  /-- and otherwise the message of a fault from the other side. -/
  sent : ∀ hops g, f.crossAll hops = .ok g →
    f.crossAll (hops ++ [.wire]) = .ok (.remote f.code g.message)
  /-- A listing that fails is a hop, for a client that remembers it: the client fails so from then
  on. -/
  listing : ∀ {τ α : Type} (c : Client τ) (ℓ : Listing α) (s t : Session (ClientState τ)),
    c.options.cache = true → c.options.retryFailed = false → ℓ.slot.get s.state = none →
      (c.fetch ℓ).runIn s = (.error (.fault f), t) → ∃ g u, f.cross .cache = .ok g ∧
        (c.list ℓ).runIn s = (.error (.fault g), u) ∧ (c.list ℓ).runIn u = (.error (.fault g), u)
  /-- A program that ends with the fault is a hop, for the caller who started it. -/
  program : ∀ (command : Command) (d : Finished),
    d.status = .exited (Plugin.outcome (.error f)).2 →
      d.output = (Plugin.outcome (.error f)).1 ++ [0x0A] →
        ∃ g, f.cross .wire = .ok g ∧ command.result d = .error g

variable {f g : Fault} {hop : Hop}

/-! ## One hop -/

/-- A fault that is remembered has the text that it had. -/
theorem message_shared (f : Fault) : (shared f).message = f.message := rfl

/-- A fault from the other side tells the text once. -/
theorem message_remote (code : FaultCode) (text : String) :
    (remote code text).message = told code text 1 := rfl

/-- What is sent of a fault are its code and its text. -/
theorem cross_wire (f : Fault) : f.cross .wire = .ok (.remote f.code f.message) := by
  rw [cross, FaultMessage.ofBytes_toBytes]
  rfl

/-- No hop loses a fault or changes its code, and only the wire adds to its text. -/
theorem exists_cross (f : Fault) (hop : Hop) : ∃ g, f.cross hop = .ok g ∧ g.code = f.code ∧
    g.message = told f.code f.message ([hop].count .wire) := by
  cases hop with
  | cache => exact ⟨.shared f, rfl, rfl, message_shared f⟩
  | wire => exact ⟨.remote f.code f.message, cross_wire f, rfl, message_remote f.code f.message⟩

/-! ## Any number of hops -/

/-- A text that is told some times, and then some more, is told as often as both. -/
theorem told_told (code : FaultCode) (text : String) (m n : Nat) :
    told code (told code text m) n = told code text (m + n) := by
  induction n with
  | zero => rfl
  | succ n ih => exact congrArg ("Provider error (" ++ code.name ++ "): " ++ ·) ih

/-- No hops lose a fault or change its code, and its text is told once more by each wire. -/
theorem exists_crossAll (f : Fault) (hops : List Hop) : ∃ g, f.crossAll hops = .ok g ∧
    g.code = f.code ∧ g.message = told f.code f.message (hops.count .wire) := by
  induction hops generalizing f with
  | nil => exact ⟨f, rfl, rfl, rfl⟩
  | cons hop hops ih =>
    obtain ⟨next, hnext, hcode, hmessage⟩ := f.exists_cross hop
    obtain ⟨g, hg, hgcode, hgmessage⟩ := ih next
    refine ⟨g, ?_, hgcode.trans hcode, ?_⟩
    · rw [crossAll, hnext]
      exact hg
    · rw [hgmessage, hcode, hmessage, told_told, ← List.count_append]
      rfl

/-- The last hop is one hop from where the others lead. -/
theorem crossAll_concat {hops : List Hop} (h : f.crossAll hops = .ok g) (hop : Hop) :
    f.crossAll (hops ++ [hop]) = g.cross hop := by
  induction hops generalizing f with
  | nil =>
    cases h
    show (g.cross hop >>= fun g' => Except.ok g') = g.cross hop
    exact bind_pure (g.cross hop)
  | cons first hops ih =>
    obtain ⟨next, hnext, hrest⟩ := exists_of_bind_eq_ok h
    rw [List.cons_append, crossAll, hnext]
    exact ih hrest

/-! ## Hops of the program -/

/-- A client that remembers failures fails with the fault that it remembers. -/
theorem list_of_fetch_fails {τ α : Type} {c : Client τ} {ℓ : Listing α}
    {s t : Session (ClientState τ)} (hcache : c.options.cache = true)
    (hretry : c.options.retryFailed = false) (hnone : ℓ.slot.get s.state = none)
    (hfetch : (c.fetch ℓ).runIn s = (.error (.fault f), t)) :
    ∃ u, (c.list ℓ).runIn s = (.error (.fault (.shared f)), u) ∧
      (c.list ℓ).runIn u = (.error (.fault (.shared f)), u) := by
  have hfirst : (c.list ℓ).runIn s = (.error (.fault (.shared f)),
      { t with state := ℓ.slot.put (some (.error f)) t.state }) := by
    rw [Client.list_of_none hcache hnone, hfetch, Client.kept, hretry]
    rfl
  refine ⟨_, hfirst, ?_⟩
  rw [Client.list_of_get hcache (ℓ.get_put (some (.error f)) t.state)]
  rfl

/-- A caller reads the fault with which a program ended. -/
theorem result_of_outcome {command : Command} {d : Finished}
    (hstatus : d.status = .exited (Plugin.outcome (.error f)).2)
    (houtput : d.output = (Plugin.outcome (.error f)).1 ++ [0x0A]) :
    command.result d = .error (.remote f.code f.message) := by
  have hmessage := FaultMessage.codec_lawful.isMessage (FaultMessage.ofFault f)
  rw [Command.result, hstatus, houtput, Plugin.outcome,
    FaultMessage.codec.ofBytes_append_newline hmessage, FaultMessage.ofBytes_toBytes]
  rfl

/-- Whatever a fault is, and whatever it passes on its way, it arrives with its code. A cache leaves
its text alone, and the wire makes it the message of what is seen on the other side. Clients that
remember failed listings and programs that end with a fault are such hops. -/
theorem code_survives (f : Fault) : f.Travels where
  arrives := f.exists_crossAll
  cached hops g h := ⟨.shared g, crossAll_concat h .cache, message_shared g⟩
  sent hops g h := by
    obtain ⟨g', hg', hcode, -⟩ := f.exists_crossAll hops
    obtain rfl : g = g' := Except.ok.inj (h.symm.trans hg')
    rw [crossAll_concat h, cross_wire, hcode]
  listing c ℓ s t hcache hretry hnone hfetch := by
    obtain ⟨u, hfirst, hagain⟩ := list_of_fetch_fails hcache hretry hnone hfetch
    exact ⟨.shared f, u, rfl, hfirst, hagain⟩
  program command d hstatus houtput :=
    ⟨.remote f.code f.message, cross_wire f, result_of_outcome hstatus houtput⟩

end Fault

end SchemaCheck
