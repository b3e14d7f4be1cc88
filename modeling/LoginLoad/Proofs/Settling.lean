import Mathlib.Data.List.Infix
import LoginLoad.Proofs.Blindness
import LoginLoad.User

/-! # What the head of a response settles

The status that a login request comes to is settled by the head of the first response which leads the
client nowhere else; informational responses do not count.

The exchanges of a request are answered by the servers one after another.  All responses but the last
are redirects, and the head of the last comes in time (`World.Answers`).  If it leads nowhere, the
call reports its code, and what is wrong with the body is told by one event at most.  The call
returns, unless the client waits without a limit for the end of a body that never comes
(`World.Answers.settles`).  A client that is led somewhere else by the tenth response, or to something
that is not served over HTTP, gives up and reports no code (`World.loopRedirect_gives_up`).

Two replies may be cut into parts in other ways, and after the end of their heads they may have
nothing in common (`ScriptedReply.AgreeToHead`).  A client still reads the same head from them
(`ScriptedReply.AgreeToHead.head_eq`), so it is redirected in the same way by both and comes to final
responses with the same head (`World.Answers.head_eq`), and to the same status
(`World.same_code_of_agree`). -/

namespace LoginLoad

open Http (Reply ResponseHead ResponseState)

/-! ### Replies with the same head -/

/-- A head that is complete in some bytes is the head of all that begins with these bytes. -/
theorem Http.ResponseState.head?_of_prefix {xs ys : List UInt8} {h : ResponseHead} (hp : xs <+: ys)
    (hx : (start.feed xs).head? = some h) : (start.feed ys).head? = some h := by
  obtain ⟨rest, rfl⟩ := hp
  rw [feed_append]
  exact head?_feed rest hx

namespace ScriptedReply
variable {x y : ScriptedReply} {limit limit' : Option Nat} {head head' : ResponseHead}

/-- Two replies begin with the same bytes, in which the head of a response is complete. -/
def AgreeToHead (x y : ScriptedReply) : Prop :=
  ∃ bytes, bytes <+: x.parts.flatten ∧ bytes <+: y.parts.flatten ∧
    (ResponseState.start.feed bytes).head?.isSome = true

/-- Whether a client that waits for ever comes to the end of the body. -/
def ends (x : ScriptedReply) : Bool := x.closes || (x.readWithin none).isOver

/-- What arrives in time is a beginning of the reply. -/
theorem inTime_prefix (x : ScriptedReply) (limit : Option Nat) :
    (x.inTime limit).flatten <+: x.parts.flatten := by
  cases limit with
  | none => exact List.prefix_refl _
  | some n => exact (List.take_prefix _ _).flatten

/-- However many bytes of two replies that agree are read, the heads that are read are the same. -/
theorem AgreeToHead.head_eq (h : x.AgreeToHead y) (hx : (x.readWithin limit).head? = some head)
    (hy : (y.readWithin limit').head? = some head') : head' = head := by
  obtain ⟨bytes, hxs, hys, hsome⟩ := h
  obtain ⟨common, hcommon⟩ := Option.isSome_iff_exists.mp hsome
  have hx' := ResponseState.head?_of_prefix (x.inTime_prefix limit) hx
  have hy' := ResponseState.head?_of_prefix (y.inTime_prefix limit') hy
  rw [ResponseState.head?_of_prefix hxs hcommon] at hx'
  rw [ResponseState.head?_of_prefix hys hcommon] at hy'
  exact Option.some.inj (hy'.symm.trans hx')

/-- A head that was read took some time. -/
theorem limit_ne_zero (hx : (x.readWithin limit).head? = some head) : limit ≠ some 0 := by
  rintro rfl
  have hnone : (x.readWithin (some 0)).head? = none := by
    simp [readWithin, inTime, partInterval, ResponseState.feed, ResponseState.start,
      ResponseState.head?]
  rw [hnone] at hx
  cases hx

end ScriptedReply

/-! ### The answers to a request -/

/-- A redirect that sends a flight on sends it to the URL of its location. -/
theorem Flight.redirectUrl?_of_again {f g : Flight} {head : ResponseHead} {took : Nat}
    {tail : Http.Tail} (hcode : head.code < 1000)
    (h : f.receive (.ofHead head took tail) = .again g) : head.redirectUrl? f.url = some g.url := by
  cases hurl : head.redirectUrl? f.url with
  | none =>
      rw [receive_ofHead_of_none took hcode hurl] at h
      exact absurd h settle_ne_again
  | some url =>
      rcases receive_ofHead_of_some took tail hcode hurl with ⟨next, hnext, heq⟩ | ⟨fault, hfault⟩
      · rw [h] at hnext
        cases hnext
        rw [heq]
      · rw [h] at hfault
        cases hfault

namespace World
variable {w v next next' : World} {rank ite : Nat} {f g : Flight} {x y : ScriptedReply}
  {head head' : ResponseHead} {base base' : Url} {redirects redirects' : List ScriptedReply}

/-- The reply that is given to an exchange, if a server listens. -/
def scripted? (w : World) (f : Flight) : Option ScriptedReply := do
  let host ← f.url.host?
  let (server, script) ← (w.connect f.isSecure host f.port).toOption
  some (w.scripted server script f)

/-- Where an exchange leads to another one: the world after it, and the flight that goes on. -/
def again? (w : World) (rank ite : Nat) (f : Flight) : Option (World × Flight) := do
  let (r, next) ← w.reply rank ite f
  match f.receive r with
  | .again g => some (next, g)
  | .done _ | .endless => none

/-- The servers answer the exchanges of a flight: first the `redirects`, and then the exchange with
the URL `base` with `last`, whose head is read in time. -/
inductive Answers (rank ite : Nat) : World → Flight → (redirects : List ScriptedReply) →
    (last : ScriptedReply) → (base : Url) → ResponseHead → Prop
  | last {w : World} {f : Flight} {x : ScriptedReply} {head : ResponseHead} :
      w.scripted? f = some x → (x.readWithin (w.remaining f)).head? = some head →
      Answers rank ite w f [] x f.url head
  | redirected {w next : World} {f g : Flight} {x last : ScriptedReply}
      {redirects : List ScriptedReply} {base : Url} {head : ResponseHead} :
      w.scripted? f = some x → w.again? rank ite f = some (next, g) →
      Answers rank ite next g redirects last base head →
      Answers rank ite w f (x :: redirects) last base head

/-- The world and the flight after exchanges that are answered with the given redirects. -/
def follow? (w : World) (rank ite : Nat) (f : Flight) :
    List ScriptedReply → Option (World × Flight)
  | [] => some (w, f)
  | x :: rest =>
    if w.scripted? f = some x then
      (w.again? rank ite f).bind fun (next, g) => next.follow? rank ite g rest
    else none

/-- Whether the exchange that follows some redirects is one with the URL `base`, which is answered with
`x`, and the given head is read in time. -/
def isAnswered (w : World) (rank ite : Nat) (f : Flight) (redirects : List ScriptedReply)
    (x : ScriptedReply) (base : Url) (head : ResponseHead) : Bool :=
  (w.follow? rank ite f redirects).any fun (next, g) =>
    next.scripted? g = some x && (x.readWithin (next.remaining g)).head? = some head &&
      g.url = base

theorem Answers.of_isAnswered (h : w.isAnswered rank ite f redirects x base head = true) :
    w.Answers rank ite f redirects x base head := by
  unfold isAnswered at h
  induction redirects generalizing w f with
  | nil =>
      simp only [follow?, Option.any_some, Bool.and_eq_true, decide_eq_true_eq] at h
      obtain ⟨⟨hx, hh⟩, rfl⟩ := h
      exact .last hx hh
  | cons redirect rest ih =>
      rw [follow?] at h
      split at h
      · rename_i hredirect
        obtain ⟨⟨next, g⟩, hnext, hlast⟩ := (Option.any_eq_true _ _).mp h
        obtain ⟨⟨after, f'⟩, hagain, hrest⟩ := Option.bind_eq_some_iff.mp hnext
        exact .redirected hredirect hagain (ih ((Option.any_eq_true _ _).mpr ⟨_, hrest, hlast⟩))
      · cases h

theorem again?_eq_some (h : w.again? rank ite f = some (next, g)) :
    ∃ r, w.reply rank ite f = some (r, next) ∧ f.receive r = .again g := by
  obtain ⟨⟨r, after⟩, hr, hp⟩ := Option.bind_eq_some_iff.mp h
  refine ⟨r, ?_⟩
  cases hf : f.receive r with
  | again g' =>
      simp only [hf] at hp
      cases hp
      exact ⟨hr, rfl⟩
  | done answer => simp [hf] at hp
  | endless => simp [hf] at hp

/-- The exchange with a server that listens. -/
theorem reply_of_scripted (rank ite : Nat) (hx : w.scripted? f = some x)
    (hpos : w.remaining f ≠ some 0) :
    (w.reply rank ite f).map Prod.fst = x.seen? (w.remaining f) := by
  obtain ⟨host, hhost, hx⟩ := Option.bind_eq_some_iff.mp hx
  obtain ⟨⟨server, script⟩, hconn, hx⟩ := Option.bind_eq_some_iff.mp hx
  obtain rfl := Option.some.inj hx
  have hconn : w.connect f.isSecure host f.port = .ok (server, script) := by
    cases hc : w.connect f.isSecure host f.port with
    | ok found =>
        rw [hc] at hconn
        cases hconn
        rfl
    | error fault =>
        rw [hc] at hconn
        cases hconn
  exact fst_reply_of_listening rank ite hhost hconn hpos

/-- A head that is read in time is the head of a response, whose body ends unless the client waits
without a limit for an end that never comes. -/
theorem reply_of_head (rank ite : Nat) (hx : w.scripted? f = some x)
    (hh : (x.readWithin (w.remaining f)).head? = some head) :
    ∃ took tail next, w.reply rank ite f = some (.ofHead head took tail, next) ∧
      (tail ≠ .endless ↔ w.limit.isSome = true ∨ x.ends = true) := by
  have hreply := reply_of_scripted rank ite hx (ScriptedReply.limit_ne_zero hh)
  obtain ⟨took, tail, hseen, hends⟩ := ScriptedReply.seen?_of_head hh
  obtain ⟨⟨_, next⟩, hr, rfl⟩ := Option.map_eq_some_iff.mp (hreply.trans hseen)
  refine ⟨took, tail, next, hr, hends.trans ?_⟩
  unfold remaining ScriptedReply.ends
  rw [Option.isSome_map, Bool.or_eq_true]
  cases w.limit with
  | none => exact Iff.rfl
  | some n => exact ⟨fun _ => .inl rfl, fun _ => .inl rfl⟩

/-- Only a head that is read in time sends a flight on. -/
theorem head_of_again (hx : w.scripted? f = some x) (h : w.again? rank ite f = some (next, g)) :
    ∃ head, (x.readWithin (w.remaining f)).head? = some head ∧
      head.redirectUrl? f.url = some g.url := by
  obtain ⟨r, hr, hg⟩ := again?_eq_some h
  have hpos : w.remaining f ≠ some 0 := by
    rcases w.listens_or_faults rank ite f with ⟨_, _, _, _, _, hpos⟩ | ⟨_, fault, hfault⟩
    · exact hpos
    · rw [hr] at hfault
      cases hfault
      simp [Flight.receive] at hg
  have hreply := reply_of_scripted rank ite hx hpos
  rw [hr, Option.map_some] at hreply
  cases hh : (x.readWithin (w.remaining f)).head? with
  | none =>
      obtain ⟨fault, rfl⟩ := ScriptedReply.seen?_of_no_head hh hreply.symm
      simp [Flight.receive] at hg
  | some head =>
      obtain ⟨took, tail, hseen, _⟩ := ScriptedReply.seen?_of_head hh
      obtain rfl := Option.some.inj (hreply.trans hseen)
      exact ⟨head, rfl, Flight.redirectUrl?_of_again (ResponseState.code_of_head hh).2.1 hg⟩

/-! ### What a call reports -/

namespace Answers

/-- The code of a final head is one that can be reported. -/
theorem code_lt (h : w.Answers rank ite f redirects x base head) : head.code < 1000 := by
  induction h with
  | last _ hh => exact (ResponseState.code_of_head hh).2.1
  | redirected _ _ _ ih => exact ih

/-- The flight of a final response returns its code, unless the client waits without a limit for the
end of a body that never comes. -/
theorem carry (h : w.Answers rank ite f redirects x base head)
    (hfinal : head.redirectUrl? base = none) (told : List Notice) :
    ((∃ answer after next,
        service.carry w rank ite told f = some (answer, after, next)) ↔
      w.limit.isSome = true ∨ x.ends = true) ∧
    ∀ answer after next, service.carry w rank ite told f = some (answer, after, next) →
      answer.status = .code (UInt16.ofNat head.code) := by
  induction h generalizing told with
  | @last w f x head hx hh =>
      obtain ⟨took, tail, next, hr, hends⟩ := reply_of_head rank ite hx hh
      have hreceive : f.receive (.ofHead head took tail) =
          Flight.settle (UInt16.ofNat head.code) tail :=
        Flight.receive_ofHead_of_none took (ResponseState.code_of_head hh).2.1 hfinal
      rw [← hends]
      by_cases hendless : tail = .endless
      · rw [Service.carry_endless (v := service) hr
          (hreceive.trans (Flight.settle_eq_endless.mpr hendless))]
        refine ⟨⟨?_, fun hne => absurd hendless hne⟩, ?_⟩
        · rintro ⟨_, _, _, hc⟩
          cases hc
        · intro answer after next hc
          cases hc
      · obtain ⟨a, ha, hstatus⟩ : ∃ a : Answer, Flight.settle (UInt16.ofNat head.code) tail =
            .done a ∧ a.status = .code (UInt16.ofNat head.code) := Flight.settle_eq_done hendless
        rw [Service.carry_done (v := service) hr (hreceive.trans ha)]
        refine ⟨⟨fun _ => hendless, fun _ => ⟨_, _, _, rfl⟩⟩, ?_⟩
        intro answer after next hc
        cases hc
        exact hstatus
  | redirected hx hagain _ ih =>
      obtain ⟨r, hr, hg⟩ := again?_eq_some hagain
      rw [Service.carry_again (v := service) hr hg, ← limit_reply hr]
      exact ih hfinal _

/-- Where replies agree to the ends of their heads, both flights come to the same URL and the same
head. -/
theorem head_eq (h : w.Answers rank ite f redirects x base head)
    (h' : v.Answers rank ite g redirects' y base' head') (hurl : g.url = f.url)
    (hredirects : List.Forall₂ ScriptedReply.AgreeToHead redirects redirects')
    (hlast : x.AgreeToHead y) : base' = base ∧ head' = head := by
  induction h generalizing v g redirects' with
  | last hx hh =>
      cases hredirects
      cases h' with
      | last hy hh' => exact ⟨hurl, hlast.head_eq hh hh'⟩
  | redirected hx hagain _ ih =>
      cases hredirects with
      | cons hagree hrest =>
          cases h' with
          | redirected hy hagain' hnext' =>
              -- both are redirected by the same head, hence to the same URL
              obtain ⟨redirect, hh, hto⟩ := head_of_again hx hagain
              obtain ⟨redirect', hh', hto'⟩ := head_of_again hy hagain'
              obtain rfl := hagree.head_eq hh hh'
              rw [hurl, hto] at hto'
              exact ih hnext' (Option.some.inj hto').symm hrest hlast

end Answers

end World

/-- What is told of an answer with a code is that its body was given up, if anything. -/
theorem Answer.bodyEvents_of_code {a : Answer} {code : UInt16} (h : a.status = .code code) :
    a.bodyEvents = [] ∨ ∃ error, a.bodyEvents = [.bodyDiscarded code error] := by
  unfold bodyEvents
  rw [h]
  cases a.bodyFault with
  | none => exact .inl rfl
  | some fault => exact .inr ⟨fault.message, rfl⟩

namespace World
variable {w v : World} {rank ite : Nat} {spec : RequestSpec} {f : Flight} {x y : ScriptedReply}
  {head head' : ResponseHead} {base base' : Url} {redirects redirects' : List ScriptedReply}

/-- What a call reports whose final response is `last`, with a head of the given code. -/
structure Settles (w : World) (rank ite : Nat) (spec : RequestSpec) (last : ScriptedReply)
    (code : UInt16) : Prop where
  /-- The call returns, unless the client waits without a limit for the end of a body that never
  comes. -/
  returns_iff : (∃ answer told next, service.send w rank ite spec = some (answer, told, next)) ↔
    w.limit.isSome = true ∨ last.ends = true
  status_eq : ∀ answer told next, service.send w rank ite spec = some (answer, told, next) →
    answer.status = .code code
  /-- What is wrong with the body is told by one event at most, and for those who debug. -/
  told : ∀ answer told next, service.send w rank ite spec = some (answer, told, next) →
    (answer.bodyEvents = [] ∨ ∃ error, answer.bodyEvents = [.bodyDiscarded code error]) ∧
      ∀ e ∈ answer.bodyEvents, e.level = .debug

/-- A final response settles what the call reports. -/
theorem Answers.settles (h : w.Answers rank ite f redirects x base head)
    (hf : Flight.start spec = .ok f) (hfinal : head.redirectUrl? base = none) :
    w.Settles rank ite spec x (UInt16.ofNat head.code) := by
  have hsend : service.send w rank ite spec = service.carry w rank ite [] f := by
    unfold Service.send
    rw [hf]
  obtain ⟨hreturns, hstatus⟩ := h.carry hfinal []
  rw [← hsend] at hreturns hstatus
  refine ⟨hreturns, hstatus, ?_⟩
  intro answer told next hc
  have hevents := Answer.bodyEvents_of_code (hstatus answer told next hc)
  refine ⟨hevents, ?_⟩
  intro e he
  rcases hevents with hnone | ⟨error, hone⟩
  · rw [hnone] at he
    cases he
  · rw [hone, List.mem_singleton] at he
    rw [he]
    rfl

/-- Take the servers of two worlds that answer a call, the final response being the first one that
leads the client nowhere else, and its head coming in time.  If their replies agree up to the ends of
the heads, however they are cut into parts and whatever follows, then both calls report the code of
that head: no body makes it a failure, and what is wrong with a body is told by one event at most,
with that code.  Both calls return, unless a client without a limit waits for the end of a body that
never comes. -/
theorem same_code_of_agree (hf : Flight.start spec = .ok f)
    (hw : w.Answers rank ite f redirects x base head)
    (hv : v.Answers rank ite f redirects' y base' head')
    (hredirects : List.Forall₂ ScriptedReply.AgreeToHead redirects redirects')
    (hlast : x.AgreeToHead y) (hfinal : head.redirectUrl? base = none) :
    ∃ code : UInt16, code.toNat = head.code ∧ w.Settles rank ite spec x code ∧
      v.Settles rank ite spec y code := by
  obtain ⟨rfl, rfl⟩ := hw.head_eq hv rfl hredirects hlast
  exact ⟨UInt16.ofNat head'.code, Flight.toNat_ofNat_of_code hw.code_lt, hw.settles hf hfinal,
    hv.settles hf hfinal⟩

/-! ### Two servers with the same heads -/

/-- A server that sends a login on to another page. -/
def movedPage (redirect page : ScriptedReply) : Script where
  routes := [("/auth/login".toList, redirect), ("/moved".toList, page)]

/-- The machine of such a page; a client waits for ten seconds. -/
def movedHost (redirect page : ScriptedReply) : World where
  servers := [(8080, movedPage redirect page)]
  limit := some 10000

/-- The flight of the login page before its first exchange. -/
def loginFlight : Flight where
  url := loginUrl
  method := .post
  headers := [("accept", "*/*".toList), ("content-type", "application/json".toList)]
  body := some (Utf8.encode loginSpec.body.json)

/-- The URL of the other page. -/
def movedUrl : Url := { loginUrl with path := .segments ["moved".toList] }

/-- A redirect to the other page in one part. -/
def movedAtOnce : ScriptedReply :=
  replyOf "HTTP/1.1 307 Temporary Redirect\r\nlocation: /moved\r\ncontent-length: 0\r\n\r\n"

/-- The same redirect in two parts, with a body. -/
def movedInParts : ScriptedReply where
  parts := ["HTTP/1.1 307 Temporary Redirect\r\nlocation: /mo",
    "ved\r\ncontent-length: 0\r\n\r\ngone"].map fun text => Utf8.encode text.toList

/-- An unavailable page behind an informational response; its body is cut short. -/
def cutPage : ScriptedReply where
  parts := ["HTTP/1.1 100 Continue\r\n\r\nHTTP/1.1 503 ",
    "Service Unavailable\r\ncontent-length: 9\r\n\r\nsor"].map fun text => Utf8.encode text.toList

/-- The same page in one part; its body stalls. -/
def stalledPage : ScriptedReply := replyOf
  "HTTP/1.1 100 Continue\r\n\r\nHTTP/1.1 503 Service Unavailable\r\ncontent-length: 9\r\n\r\n"

/-- The head of the page. -/
def unavailableHead : ResponseHead where
  version := .http11
  code := 503
  headers := [⟨"content-length".toList, [0x39]⟩]

/-- Both servers send the client on and then answer 503; one ends the connection within the body, and
the other stalls until the client's time is over.  Both calls return the code, and each tells of what
was wrong with the body. -/
theorem unavailable_either_way : ∃ code : UInt16, code.toNat = 503 ∧
    (movedHost movedAtOnce cutPage).Settles 0 0 loginSpec cutPage code ∧
    (movedHost movedInParts stalledPage).Settles 0 0 loginSpec stalledPage code ∧
    (service.send (movedHost movedAtOnce cutPage) 0 0 loginSpec).map
        (fun (answer, _, _) => (answer.status, answer.bodyFault)) =
      some (.code 503, some .cutOff) ∧
    (service.send (movedHost movedInParts stalledPage) 0 0 loginSpec).map
        (fun (answer, _, _) => (answer.status, answer.bodyFault)) =
      some (.code 503, some .timedOut) := by
  have hstart : Flight.start loginSpec = .ok loginFlight := by decide +kernel
  have hcut : (movedHost movedAtOnce cutPage).Answers 0 0 loginFlight [movedAtOnce] cutPage movedUrl
      unavailableHead := .of_isAnswered (by decide +kernel)
  have hstalled : (movedHost movedInParts stalledPage).Answers 0 0 loginFlight [movedInParts]
      stalledPage movedUrl unavailableHead := .of_isAnswered (by decide +kernel)
  have hmoved : movedAtOnce.AgreeToHead movedInParts :=
    ⟨movedAtOnce.parts.flatten, by decide +kernel, by decide +kernel, by decide +kernel⟩
  have hpage : cutPage.AgreeToHead stalledPage :=
    ⟨stalledPage.parts.flatten, by decide +kernel, by decide +kernel, by decide +kernel⟩
  have hfinal : unavailableHead.redirectUrl? movedUrl = none := by decide +kernel
  obtain ⟨code, hcode, hw, hv⟩ :=
    same_code_of_agree hstart hcut hstalled (.cons hmoved .nil) hpage hfinal
  exact ⟨code, hcode, hw, hv, by decide +kernel, by decide +kernel⟩

/-- A redirect of the login page to itself. -/
def loopRedirect : ScriptedReply :=
  replyOf "HTTP/1.1 302 Found\r\nlocation: /auth/login\r\ncontent-length: 0\r\n\r\n"

/-- The head of the redirect. -/
def loopHead : ResponseHead where
  version := .http11
  code := 302
  headers := [⟨"location".toList, Utf8.encode "/auth/login".toList⟩, ⟨"content-length".toList, [0x30]⟩]

/-- The tenth redirect of a login page to itself is not followed.  Its head is complete in time, and yet
the call does not report its code, but gives up. -/
theorem loopRedirect_gives_up :
    Flight.start loginSpec = .ok loginFlight ∧
      (loginHost loopRedirect).Answers 0 0 loginFlight (List.replicate 9 loopRedirect) loopRedirect
        loginUrl loopHead ∧
      loopRedirect.AgreeToHead loopRedirect ∧
      (service.send (loginHost loopRedirect) 0 0 loginSpec).map
          (fun (answer, _, next) => (answer.status, next.arrivals.size)) =
        some (.failed (.request ("error following redirect for url " ++
          "(http://127.0.0.1:8080/auth/login): too many redirects")), 10) :=
  ⟨by decide +kernel, .of_isAnswered (by decide +kernel),
    ⟨loopRedirect.parts.flatten, by decide +kernel, by decide +kernel, by decide +kernel⟩,
    by decide +kernel⟩

end World
end LoginLoad
