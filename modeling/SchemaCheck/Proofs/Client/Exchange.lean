import SchemaCheck.Proofs.Client.Local
import SchemaCheck.Proofs.Client.Log

/-!
# Checks by any provider

What a check comes to when nothing is known of the provider, whose answers may be anything and may
depend on all that was asked before. The messages of the request are sent one after another, each in
one call, up to the first that fails (`Transport.Exchanges`). When one fails, its fault is that of
the check, whatever was received before. When none does, the check comes to all that was received,
or, if the request does not accept some of it, to what is wrong with that (`Request.Settles`):
`Client.check_all_or_nothing`.
-/

namespace SchemaCheck

/-! ## What is received -/

namespace Request

/-- A request accepts a finding that was sent when its rule has a well-formed identifier and its
places, where it has any, are in files of the request. -/
structure Accepts (r : Request) (e : FindingEntry) : Prop where
  rule : Identifier.isWellFormed .rule e.ruleId
  location : ∀ place, e.location = some place → ∃ f ∈ r.files, f.name = place.fileName
  against : ∀ place, e.against = some place → ∃ f ∈ r.againstFiles, f.name = place.fileName

/-- What is wrong with a finding that was sent: the first thing of its place, its former place and
its rule that is. -/
def rejection (r : Request) (e : FindingEntry) : Option Fault :=
  ((Draft.ofEntry e).objections r e.ruleId).head?

/-- What a check comes to when all messages are answered, by what was received in the answers: all
of it and nothing else, in order and at the files of the request, when all of it is accepted; and
else what is wrong with all that is not accepted, as it came, and no findings. -/
inductive Settles (r : Request) (received : List FindingEntry) : Except Stop Response → Prop where
  | accepted {response : Response} : (∀ e ∈ received, r.Accepts e) →
      response.reply.findings.Perm received →
      response.findings.Pairwise (fun f g => f.compare g ≠ .gt) →
      (∀ f ∈ response.findings, f.IsOf r) → Settles r received (.ok response)
  | rejected {e : Fault} : (∃ entry ∈ received, ¬ r.Accepts entry) →
      Fault.join (received.filterMap r.rejection) = some e →
      Settles r received (.error (.fault e))

variable {r : Request} {e : FindingEntry}

/-- A place that was sent is a sound target when its file is there. -/
theorem sound_ofPlace {files : List SchemaFile} {place : Option Place} :
    (Target.ofPlace place).Sound files ↔
      ∀ p, place = some p → ∃ f ∈ files, f.name = p.fileName := by
  cases place with
  | none => exact ⟨fun _ => nofun, fun _ => ⟨nofun, nofun, nofun⟩⟩
  | some p =>
    constructor
    · rintro h _ ⟨rfl⟩
      exact h.known _ (.inl rfl)
    · intro h
      refine ⟨nofun, nofun, ?_⟩
      rintro name (hname | ⟨_, hpath⟩)
      · cases hname
        exact h p rfl
      · cases hpath

/-- A request accepts what makes a sound draft. -/
theorem accepts_iff_sound : r.Accepts e ↔ (Draft.ofEntry e).Sound r e.ruleId :=
  ⟨fun h => ⟨h.rule, sound_ofPlace.2 h.location, sound_ofPlace.2 h.against⟩,
    fun h => ⟨h.rule, sound_ofPlace.1 h.current, sound_ofPlace.1 h.against⟩⟩

/-- Something is wrong just with what the request does not accept. -/
theorem rejection_eq_none_iff : r.rejection e = none ↔ r.Accepts e := by
  rw [rejection, List.head?_eq_none_iff, ← Draft.sound_iff, accepts_iff_sound]

/-- What was received settles what comes of it. -/
theorem settles_finish (r : Request) (received : List FindingEntry) :
    r.Settles received
      (Call.lift (Client.collectEntries (Collector.ofRequest r) received).finish.1) := by
  by_cases haccepts : ∀ e ∈ received, r.Accepts e
  · obtain ⟨response, hfinish, hentries, hof⟩ := Client.finish_collectEntries fun e he =>
      admits_iff_sound.2 (accepts_iff_sound.1 (haccepts e he))
    rw [hfinish]
    refine .accepted haccepts ?_ ?_ hof
    · rw [hentries]
      exact FindingEntry.sort_perm received
    · rw [Client.collectEntries_eq] at hfinish
      exact ((Collector.firstAnswer r _).findings response hfinish).2
  · have hrejected : ∃ e ∈ received, ¬ r.Accepts e := by
      simpa using haccepts
    rw [Client.collectEntries_eq]
    cases hfinish : ((Collector.ofRequest r).addAll (FindingEntry.drafts received)).finish.1 with
    | ok response =>
      have hsound := (Collector.firstAnswer r _).ok_iff.1 ⟨response, hfinish⟩
      refine absurd (fun e he => accepts_iff_sound.2 ?_) haccepts
      exact hsound _ (List.mem_map.2 ⟨e, he, rfl⟩)
    | error e =>
      refine .rejected hrejected ?_
      rw [← Collector.join_of_finish hfinish, Collector.remembered, FindingEntry.drafts,
        List.filterMap_map]
      rfl

end Request

/-! ## What is sent -/

/-- From a session, messages for a check are sent over a transport, one call each, and the answers
are read: up to the first message for which the call is over, or to which there is no answer that
can be read. The calls that are made are listed, and what is read. -/
inductive Transport.Exchanges {τ : Type} (t : Transport τ) (provider : Option Provider) :
    List CheckMessage → Session τ → List LoggedCall → List CheckReply → Result Unit → Session τ →
      Prop where
  | nil {s : Session τ} : Exchanges t provider [] s [] [] (.ok ()) s
  | late {m : CheckMessage} {messages : List CheckMessage} {s : Session τ} {e : Fault} :
      s.context.check = .error e → Exchanges t provider (m :: messages) s [] [] (.error e) s
  | fails {m : CheckMessage} {messages : List CheckMessage} {s : Session τ} {a : Answer τ}
      {e : Fault} : s.context.isLive →
      t .check (CheckMessage.codec.toBytes m) s.context s.state = a →
      a.result >>= CheckReply.codec.ofBytes = .error e →
      Exchanges t provider (m :: messages) s
        [⟨.check, CheckMessage.codec.toBytes m, s.context, a.result, a.after s.context, provider⟩]
        [] (.error e) ⟨a.after s.context, a.state⟩
  | next {m : CheckMessage} {messages : List CheckMessage} {s u : Session τ} {a : Answer τ}
      {reply : CheckReply} {calls : List LoggedCall} {replies : List CheckReply}
      {result : Result Unit} : s.context.isLive →
      t .check (CheckMessage.codec.toBytes m) s.context s.state = a →
      a.result >>= CheckReply.codec.ofBytes = .ok reply →
      Exchanges t provider messages ⟨a.after s.context, a.state⟩ calls replies result u →
      Exchanges t provider (m :: messages) s
        (⟨.check, CheckMessage.codec.toBytes m, s.context, a.result, a.after s.context, provider⟩
          :: calls)
        (reply :: replies) result u

namespace Transport

variable {τ : Type} {t : Transport τ} {provider : Option Provider}

/-- Over the transport that keeps a log the same is exchanged, and the calls are logged. -/
theorem Exchanges.logged {messages : List CheckMessage} {s u : Session τ} {calls : List LoggedCall}
    {replies : List CheckReply} {result : Result Unit}
    (h : t.Exchanges provider messages s calls replies result u) (log : List LoggedCall) :
    (t.logged provider).Exchanges provider messages ⟨s.context, (s.state, log)⟩ calls replies result
      ⟨u.context, (u.state, log ++ calls)⟩ := by
  induction h generalizing log with
  | nil =>
    rw [List.append_nil]
    exact .nil
  | late hcheck =>
    rw [List.append_nil]
    exact .late hcheck
  | fails hlive ha hread =>
    subst ha
    exact .fails (t := t.logged provider) hlive rfl hread
  | next hlive ha hread _ ih =>
    subst ha
    rw [List.append_cons]
    exact .next (t := t.logged provider) hlive rfl hread (ih _)

/-- Whatever the answers, messages are exchanged in some way. -/
theorem exists_exchanges (t : Transport τ) (provider : Option Provider)
    (messages : List CheckMessage) (s : Session τ) :
    ∃ calls replies result u, t.Exchanges provider messages s calls replies result u := by
  induction messages generalizing s with
  | nil => exact ⟨[], [], .ok (), s, .nil⟩
  | cons m messages ih =>
    cases hcheck : s.context.check with
    | error e => exact ⟨_, _, _, _, .late hcheck⟩
    | ok _ =>
      have hlive := (CallContext.check_eq_ok_iff _).1 hcheck
      let a := t .check (CheckMessage.codec.toBytes m) s.context s.state
      cases hread : a.result >>= CheckReply.codec.ofBytes with
      | error e => exact ⟨_, _, _, _, .fails hlive rfl hread⟩
      | ok reply =>
        obtain ⟨calls, replies, result, u, hrest⟩ := ih ⟨a.after s.context, a.state⟩
        exact ⟨_, _, _, _, .next hlive rfl hread hrest⟩

end Transport

/-! ## Checks -/

/-- The findings in answers, as they came. -/
def CheckReply.received (replies : List CheckReply) : List FindingEntry :=
  replies.flatMap CheckReply.findings

namespace Client

open Call

variable {τ : Type} {c : Client τ} {provider : Option Provider}

/-- What was exchanged is what the client collects; the first fault is that of the client. What it
remembers stays. -/
theorem sendAll_runIn {messages : List CheckMessage} {s u : Session τ} {calls : List LoggedCall}
    {replies : List CheckReply} {result : Result Unit}
    (h : c.transport.Exchanges provider messages s calls replies result u) (cache : ListingCache)
    (collector : Collector) : (c.sendAll collector messages).runIn ⟨s.context, ⟨cache, s.state⟩⟩
      = (lift (result.map fun _ => collectEntries collector (CheckReply.received replies)),
        ⟨u.context, ⟨cache, u.state⟩⟩) := by
  induction h generalizing collector with
  | nil => rfl
  | late hcheck =>
    rw [sendAll, runIn_bind, ask_of_not_live hcheck]
    rfl
  | fails hlive ha hread =>
    subst ha
    rw [sendAll, runIn_bind, ask_runIn hlive]
    dsimp only
    rw [hread]
    rfl
  | @next m messages s u a reply calls replies result hlive ha hread _ ih =>
    subst ha
    rw [sendAll, runIn_bind, ask_runIn hlive]
    dsimp only
    rw [hread]
    refine (ih (collectEntries collector reply.findings)).trans ?_
    rw [← collectEntries_append]
    rfl

/-- What was exchanged for a request is what the check comes to. -/
theorem check_runIn {r : Request} {s u : Session τ} {calls : List LoggedCall}
    {replies : List CheckReply} {result : Result Unit}
    (h : c.transport.Exchanges provider r.messages s calls replies result u)
    (cache : ListingCache) : (c.check r).runIn ⟨s.context, ⟨cache, s.state⟩⟩
      = (lift (result >>= fun _ =>
          (collectEntries (Collector.ofRequest r) (CheckReply.received replies)).finish.1),
        ⟨u.context, ⟨cache, u.state⟩⟩) := by
  rw [check, runIn_bind, sendAll_runIn h]
  cases result <;> rfl

/-- A check by a client, over whatever transport and in whatever session, is all or nothing. The
messages of the request are sent in order, one call each and no other call, up to the first that
fails, and that fault is then what the check comes to, whatever was received before. When none
fails, the check comes to all that was received or to what is wrong with it. -/
theorem check_all_or_nothing (c : Client τ) (r : Request) (s : Session (ClientState τ)) :
    ∃ calls replies result t,
      c.transport.Exchanges none r.messages ⟨s.context, s.state.link⟩ calls replies result t ∧
      (∀ log, ((c.logged none).check r).runIn ⟨s.context, s.state.withLog log⟩
        = (((c.check r).runIn s).1,
          ⟨t.context, ⟨s.state.cache, (t.state, log ++ calls)⟩⟩)) ∧
      ((c.check r).runIn s).2 = ⟨t.context, ⟨s.state.cache, t.state⟩⟩ ∧
      (∀ e, result = .error e → ((c.check r).runIn s).1 = .error (.fault e)) ∧
      (result = .ok () → r.Settles (CheckReply.received replies) ((c.check r).runIn s).1) := by
  obtain ⟨calls, replies, result, t, h⟩ :=
    c.transport.exists_exchanges none r.messages ⟨s.context, s.state.link⟩
  have hrun : (c.check r).runIn s = _ := check_runIn h s.state.cache
  refine ⟨calls, replies, result, t, h, fun log => ?_, ?_, ?_, ?_⟩
  · rw [hrun]
    exact check_runIn (c := c.logged none) (h.logged log) s.state.cache
  · rw [hrun]
  · rintro e rfl
    rw [hrun]
    rfl
  · rintro rfl
    rw [hrun]
    exact r.settles_finish _

end Client

end SchemaCheck
