import CivicRegistry.Proofs.Http.Admission
import CivicRegistry.Proofs.Revocation.Outages

/-!
# Logging out

Logging out revokes the token that the request shows and then, by a write of
its own, the token that its body gives up.  Nothing takes the first write back,
so there is an outcome between none and both: the second write is not answered,
the request comes to a fault, and the token it showed is given up while the
other one stands as before.  A body that is not declared as a document is not
looked at, and a token in it stands as before too.

A write that is not answered is taken as not done.  Where the ledger is kept
behind a connection, the write can be done and its answer be lost; that is a
further outcome, of which nothing is said here.
-/

namespace CivicRegistry.Http

open Service (Procedure Host Interval Endures)
open Token (ledgerKey GivenUp Revocation)

/-! ## The token in the body -/

section Bodies

variable {request : Request} {token : String}

theorem givenUpToken?_of_undeclared
    (hundeclared : request.declaresJson = false) :
    request.givenUpToken? = .ok none := by
  rw [Request.givenUpToken?, Request.read, hundeclared]
  rfl

/-- The body is declared as a document and is an object with the token under
its one key. -/
structure Request.Encloses (request : Request) (token : String) : Prop where
  declared : request.declaresJson = true
  body_eq : request.body = Token.utf8
    (Json.object [("refreshToken", .text token)]).print.toList
  short : request.body.length ≤ bodyLimit
  trimmed : Text.trim token = token
  nonempty : token.isEmpty = false

theorem readGivenUp_outlined (token : String) :
    readGivenUp (Json.object [("refreshToken", .text token)]).outlined =
      .ok (some token) := by
  let schema := TokenKey.schema
    (Intake.optional (Intake.single Shape.readText))
  have hread : schema.read .refreshToken (Json.text token).outlined =
      .ok (some token) := by
    have hchars : Json.Pieces.text? (token.toList.map .char) = some token :=
      Json.text?_map_char token
    change (Intake.single Shape.readText (.text _)).map some = _
    rw [Intake.single, Json.Outline.shape, hchars]
    rfl
  have hmembers : schema.readMembers Json.Outline.ignored?
      (schema.membersUnder (fun _ => (Json.text token).outlined)
        schema.keys) = .ok fun _ => some (some token) := by
    apply Schema.readMembers_membersUnder
    · intro key
      cases key
      decide
    · decide
    · intro key
      cases key
      rfl
    · intro key
      cases key
      exact hread
  have hdecoded : Schema.decodedMembers
      (Json.outlinedMembers [("refreshToken", .text token)]) =
        schema.membersUnder (fun _ => (Json.text token).outlined)
          schema.keys := Json.decodedMembers_outlinedMembers _
  rw [← hdecoded] at hmembers
  rw [readGivenUp, readToken?, Json.outlined, Schema.readRecord,
    Schema.readObject, hmembers]
  · rfl
  · intro items closed hshape
    cases hshape

/-- A token that the body encloses is given up. -/
theorem Request.Encloses.givenUpToken? (hencloses : request.Encloses token) :
    request.givenUpToken? = .ok (some token) := by
  have hexact : (Json.object [("refreshToken", .text token)]).Exact :=
    ⟨trivial, trivial⟩
  have hread : request.read readGivenUp = .ok (some token) := by
    rw [Request.read, hencloses.declared,
      if_neg (Nat.not_lt.mpr hencloses.short), hencloses.body_eq,
      Token.symbols_utf8, Json.outline_print hexact, readGivenUp_outlined]
    rfl
  rw [Request.givenUpToken?, hread]
  simp [hencloses.trimmed, hencloses.nonempty]

end Bodies

/-! ## Authentication -/

section Steps

variable {gateway : Gateway} {request : Request} {session : Session}
  {host middle ending : Host}

/-- The request shows the token of the session, and it passes the check for
access. -/
structure Passes (gateway : Gateway) (request : Request) (session : Session)
    (host middle : Host) : Prop where
  shown : bearerToken (request.header? "authorization") = .ok session.token
  accepted : ∃ claims, session.identity = claims.subject ∧
    Endures host (gateway.issuer.verify session.token .access).run
      (some (.ok claims)) middle
  untouched : middle.ledger = host.ledger

/-- Authentication comes to an end and writes nothing. -/
theorem exists_of_authenticate {outcome : Option (Except Fault Session)}
    (hendures : Endures host (gateway.authenticate request).run outcome
      middle) :
    (∃ fault, outcome = some (.error fault) ∧ middle.ledger = host.ledger) ∨
      ∃ session, outcome = some (.ok session) ∧
        Passes gateway request session host middle := by
  cases hbearer : bearerToken (request.header? "authorization") with
  | error fault =>
    rw [run_authenticate_of_error hbearer] at hendures
    obtain ⟨rfl, rfl⟩ := hendures.of_done
    exact .inl ⟨_, rfl, rfl⟩
  | ok token =>
    rw [run_authenticate hbearer] at hendures
    rcases hendures.of_bind with ⟨-, hbroken⟩ | ⟨result, last, hchecked, hdone⟩
    · obtain ⟨result, hresult⟩ := Token.exists_of_verify hbroken
      cases hresult
    · obtain ⟨rfl, rfl⟩ := hdone.of_done
      have huntouched := hchecked.ledger_eq fun key =>
        gateway.issuer.verify_spares token key .access
      cases result with
      | error fault => exact .inl ⟨_, rfl, huntouched⟩
      | ok claims =>
        exact .inr ⟨_, rfl, hbearer, ⟨claims, rfl, hchecked⟩, huntouched⟩

/-! ## The two writes -/

/-- What is told a client that has logged out. -/
def loggedOut : Json :=
  .object [("loggedOut", .boolean true)]

/-- Revoking the token that is given up, if there is one. -/
def revokingGivenUp (gateway : Gateway) :
    Option String → Procedure (Except Fault Json)
  | none => .done (.ok loggedOut)
  | some token => (gateway.issuer.revoke token).run.bind
    (continued Fault.ofToken fun _ => pure loggedOut)

theorem run_logout {givenUp : Option String}
    (hbody : request.givenUpToken? = .ok givenUp) :
    (gateway.logout request session).run =
      (gateway.issuer.revoke session.token).run.bind
        (continued Fault.ofToken fun _ =>
          ExceptT.mk (revokingGivenUp gateway givenUp)) := by
  have hsecond (token : String) :
      ((gateway.issuer.revoke token).adapt Fault.ofToken >>= fun _ =>
        (pure loggedOut : Attempt Json)).run =
          revokingGivenUp gateway (some token) :=
    run_adapt_bind Fault.ofToken (gateway.issuer.revoke token) _
  rw [Gateway.logout, hbody]
  refine (run_adapt_bind Fault.ofToken
    (gateway.issuer.revoke session.token) _).trans ?_
  congr 1
  funext result
  cases result with
  | error fault => rfl
  | ok done =>
    cases givenUp with
    | none => rfl
    | some token => exact hsecond token

/-- What a request to log out that passes authentication comes to, from the
host after authentication to the host at the end. -/
inductive Departure (gateway : Gateway) (request : Request) (token : String)
    (host ending : Host) : Response → Prop where
  /-- The body is refused and nothing is written. -/
  | unread {fault : Fault} (hbody : request.givenUpToken? = .error fault)
      (huntouched : ending.ledger = host.ledger) :
      Departure gateway request token host ending fault.response
  /-- The first write is not answered, which is taken as that it is not done,
  and the second one is not tried. -/
  | unanswered {givenUp : Option String} {cause : Token.LedgerFault}
      (hbody : request.givenUpToken? = .ok givenUp)
      (huntouched : ending.ledger = host.ledger) :
      Departure gateway request token host ending
        (Fault.ofToken (.ledger cause)).response
  /-- The second write is not answered, which is taken as that it is not done,
  and the first one stays done. -/
  | halfway {other : String} {claims : Token.Claims}
      {cause : Token.LedgerFault}
      (hbody : request.givenUpToken? = .ok (some other))
      (hclaims : gateway.issuer.claimsOf other = .ok claims)
      (hgone : GivenUp gateway.issuer token ending)
      (hothers : ∀ key, key ≠ ledgerKey token →
        Host.Unwritten key host ending) :
      Departure gateway request token host ending
        (Fault.ofToken (.ledger cause)).response
  /-- Both tokens are given up. -/
  | through {givenUp : Option String}
      (hbody : request.givenUpToken? = .ok givenUp)
      (hgone : GivenUp gateway.issuer token ending)
      (hgivenUp : ∀ other ∈ givenUp, GivenUp gateway.issuer other ending)
      (hothers : ∀ key, key ≠ ledgerKey token →
        (∀ other ∈ givenUp, key ≠ ledgerKey other) →
          Host.Unwritten key host ending) :
      Departure gateway request token host ending (.success loggedOut)

theorem status_response_ne (fault : Fault) : fault.response.status ≠ 200 := by
  cases fault <;> simp [Fault.response, Response.ofJson, Fault.status]

/-- A request to log out that succeeds gives up both tokens. -/
theorem Departure.of_success {token : String} {response : Response}
    (hdeparture : Departure gateway request token host ending response)
    (hsuccess : response.status = 200) :
    ∃ givenUp, request.givenUpToken? = .ok givenUp ∧
      GivenUp gateway.issuer token ending ∧
      (∀ other ∈ givenUp, GivenUp gateway.issuer other ending) ∧
      ∀ key, key ≠ ledgerKey token →
        (∀ other ∈ givenUp, key ≠ ledgerKey other) →
          Host.Unwritten key host ending := by
  cases hdeparture with
  | unread => exact absurd hsuccess (status_response_ne _)
  | unanswered => exact absurd hsuccess (status_response_ne _)
  | halfway => exact absurd hsuccess (status_response_ne _)
  | through hbody hgone hgivenUp hothers =>
    exact ⟨_, hbody, hgone, hgivenUp, hothers⟩

/-- Once the first write is done, the outcome hangs on the second. -/
theorem departure_of_revokingGivenUp {givenUp : Option String}
    {outcome : Option (Except Fault Json)}
    (hbody : request.givenUpToken? = .ok givenUp)
    (hfirst : Revocation gateway.issuer session.token host middle (.ok ()))
    (hbefore : host.now ≤ middle.now)
    (hendures : Endures middle (revokingGivenUp gateway givenUp) outcome
      ending)
    (hdistinct : ∀ other ∈ givenUp,
      ledgerKey other = ledgerKey session.token → other = session.token) :
    ∃ result, outcome = some result ∧ Departure gateway request session.token
      host ending (responseTo result) := by
  have hwritten (key : String) (hkey : key ≠ ledgerKey session.token) :
      Host.Unwritten key host middle := hfirst.unwritten hbefore hkey
  cases givenUp with
  | none =>
    obtain ⟨rfl, rfl⟩ := hendures.of_done
    refine ⟨_, rfl, .through hbody (.of_bars fun claims => hfirst.bars)
      (by simp) fun key hkey _ => hwritten key hkey⟩
  | some other =>
    rcases hendures.of_bind with ⟨-, hbroken⟩ | ⟨result, last, hsecond, hdone⟩
    · obtain ⟨result, hresult, -⟩ := Token.exists_revocation hbroken
      cases hresult
    have hrevocation := Token.revocation_of_some hsecond
    -- the second write may be to the same key, and then it is for the same
    -- token
    have hgone (claims : Token.Claims)
        (hclaims : gateway.issuer.claimsOf session.token = .ok claims) :
        last.Bars (ledgerKey session.token) claims.deadline := by
      refine @Token.bars_of_call _ _ _ _ _ (.revoke other) _ hclaims
        (hfirst.bars hclaims) hsecond ?_
      intro given hgiven hkey
      obtain rfl := Option.some.inj hgiven
      exact hdistinct other rfl hkey
    have hunwritten (key : String) (hkey : key ≠ ledgerKey session.token)
        (hother : key ≠ ledgerKey other) : Host.Unwritten key host last :=
      (hwritten key hkey).trans (hrevocation.unwritten hsecond.now_le hother)
        hsecond.now_le
    cases result with
    | ok done =>
      obtain ⟨rfl, rfl⟩ := hdone.of_done
      have hbarred (given : String) (hgiven : given ∈ some other)
          (claims : Token.Claims)
          (hclaims : gateway.issuer.claimsOf given = .ok claims) :
          ending.Bars (ledgerKey given) claims.deadline := by
        obtain rfl := Option.some.inj hgiven
        exact hrevocation.bars hclaims
      refine ⟨_, rfl, .through hbody (.of_bars hgone)
        (fun given hgiven => .of_bars (hbarred given hgiven)) ?_⟩
      intro key hkey hothers
      exact hunwritten key hkey (hothers other rfl)
    | error fault =>
      obtain ⟨rfl, rfl⟩ := hdone.of_done
      cases hrevocation with
      | unanswered hclaims cause huntouched =>
        refine ⟨_, rfl, .halfway hbody hclaims (.of_bars hgone) ?_⟩
        intro key hkey
        exact (hwritten key hkey).trans
          (Host.unwritten_of_ledger_eq hsecond.now_le huntouched)
          hsecond.now_le

theorem exists_departure {outcome : Option (Except Fault Json)}
    (hendures : Endures host (gateway.logout request session).run outcome
      ending)
    (hdistinct : ∀ other, request.givenUpToken? = .ok (some other) →
      ledgerKey other = ledgerKey session.token → other = session.token) :
    ∃ result, outcome = some result ∧ Departure gateway request session.token
      host ending (responseTo result) := by
  cases hbody : request.givenUpToken? with
  | error fault =>
    have hrun : (gateway.logout request session).run =
        .done (.error fault) := by
      rw [Gateway.logout, hbody]
      rfl
    rw [hrun] at hendures
    obtain ⟨rfl, rfl⟩ := hendures.of_done
    exact ⟨_, rfl, .unread hbody rfl⟩
  | ok givenUp =>
    rw [run_logout hbody] at hendures
    rcases hendures.of_bind with ⟨-, hbroken⟩ | ⟨result, middle, hfirst, hnext⟩
    · obtain ⟨result, hresult, -⟩ := Token.exists_revocation hbroken
      cases hresult
    have hrevocation := Token.revocation_of_some hfirst
    cases result with
    | ok done =>
      apply departure_of_revokingGivenUp hbody hrevocation hfirst.now_le hnext
      intro other hother
      apply hdistinct other
      rw [hbody, Option.mem_def.mp hother]
    | error fault =>
      obtain ⟨rfl, rfl⟩ := hnext.of_done
      obtain ⟨huntouched, cause, rfl⟩ := hrevocation.of_error
      exact ⟨_, rfl, .unanswered hbody huntouched⟩

/-! ## The whole request -/

theorem received_of_logout (hrouted : request.RoutedTo .logout)
    (response : Response) : request.received response = response := by
  have hmethod : request.method = "POST" := List.mem_singleton.mp hrouted.2
  rw [Request.received, hmethod, if_neg (by decide)]

/-- What follows authentication in a request to log out. -/
def afterAuthentication (gateway : Gateway) (request : Request) :
    Except Fault Session → Procedure Response
  | .ok session => (gateway.logout request session).run.bind fun result =>
    .done (responseTo result)
  | .error fault => .done fault.response

theorem respond_logout (hrouted : request.RoutedTo .logout) :
    gateway.respond request =
      (gateway.authenticate request).run.bind
        (afterAuthentication gateway request) := by
  rw [respond_eq hrouted]
  simp only [received_of_logout hrouted, Procedure.bind_done]
  apply congrArg (gateway.authenticate request).run.bind
  funext result
  cases result with
  | ok session => exact responding_eq (gateway.logout request session)
  | error fault => rfl

end Steps

/-- A request to log out is always answered, however the ledger fares at each
of its questions.  If it does not pass authentication nothing is written.  If
it does, it departs in one of four ways: it comes to a fault with nothing
written, or to a fault with the token it showed given up and nothing else
written, or to success with both tokens given up.  A body that is not declared
as a document gives up no token. -/
theorem logout_revokes_in_turn {gateway : Gateway} {request : Request}
    {host ending : Host} {outcome : Option Response}
    (hrouted : request.RoutedTo .logout)
    (hendures : Endures host (gateway.respond request) outcome ending)
    (hdistinct : ∀ token other,
      bearerToken (request.header? "authorization") = .ok token →
        request.givenUpToken? = .ok (some other) →
          ledgerKey other = ledgerKey token → other = token) :
    (request.declaresJson = false → request.givenUpToken? = .ok none) ∧
    ∃ response, outcome = some response ∧
      ((∃ fault, response = fault.response ∧
          Endures host (gateway.authenticate request).run
            (some (.error fault)) ending ∧
          ending.ledger = host.ledger) ∨
        ∃ session middle, Passes gateway request session host middle ∧
          Departure gateway request session.token middle ending
            response) := by
  refine ⟨givenUpToken?_of_undeclared, ?_⟩
  rw [respond_logout hrouted] at hendures
  rcases hendures.of_bind with ⟨-, hbroken⟩ | ⟨result, middle, hfirst, hnext⟩
  · rcases exists_of_authenticate hbroken with ⟨fault, hfault, -⟩ |
      ⟨session, hsession, -⟩
    · cases hfault
    · cases hsession
  rcases exists_of_authenticate hfirst with ⟨fault, hfault, huntouched⟩ |
    ⟨session, hsession, hpasses⟩
  · obtain rfl := Option.some.inj hfault
    obtain ⟨rfl, rfl⟩ := hnext.of_done
    exact ⟨_, rfl, .inl ⟨fault, rfl, hfirst, huntouched⟩⟩
  · obtain rfl := Option.some.inj hsession
    rcases hnext.of_bind with ⟨-, hbroken⟩ | ⟨result, last, hwork, hdone⟩
    · obtain ⟨result, hresult, -⟩ := exists_departure hbroken fun other =>
        hdistinct session.token other hpasses.shown
      cases hresult
    obtain ⟨rfl, rfl⟩ := hdone.of_done
    obtain ⟨result, hresult, hdeparture⟩ := exists_departure hwork
      fun other => hdistinct session.token other hpasses.shown
    obtain rfl := Option.some.inj hresult
    exact ⟨_, rfl, .inr ⟨session, middle, hpasses, hdeparture⟩⟩

/-- Logging out can be left halfway: whoever logs out with two tokens that
have not expired is told of a fault if the second write is not answered, and by
then the token shown is given up while the enclosed one stands as before, the
write that is not answered being taken as not done. -/
theorem halfway_occurs {gateway : Gateway} {request : Request}
    {session : Session} {host middle : Host} {other : String}
    {shown enclosed : Token.Claims} (cause : Token.LedgerFault)
    (hrouted : request.RoutedTo .logout) (hencloses : request.Encloses other)
    (hauthenticated : Endures host (gateway.authenticate request).run
      (some (.ok session)) middle)
    (hshown : gateway.issuer.claimsOf session.token = .ok shown)
    (hshownAhead : middle.now < shown.deadline)
    (henclosed : gateway.issuer.claimsOf other = .ok enclosed)
    (henclosedAhead : middle.now < enclosed.deadline)
    (hkey : ledgerKey other ≠ ledgerKey session.token) :
    ∃ ending, Endures host (gateway.respond request)
        (some (Fault.unavailable "Token verification unavailable").response)
        ending ∧
      GivenUp gateway.issuer session.token ending ∧
      Host.Unwritten (ledgerKey other) middle ending ∧
      ending.now = middle.now := by
  obtain ⟨between, hbetween, hfirst⟩ :=
    Token.endures_revoke hshown hshownAhead .well
  rw [← hbetween] at henclosedAhead
  obtain ⟨ending, hending, hsecond⟩ :=
    Token.endures_revoke henclosed henclosedAhead (.failing cause)
  have hwritten : Revocation gateway.issuer session.token middle between
      (.ok ()) := Token.revocation_of_some hfirst
  have hunanswered : Revocation gateway.issuer other between ending
      (.error (.ledger cause)) := Token.revocation_of_some hsecond
  have hwork : Endures middle (gateway.logout request session).run
      (some (.error (.ofToken (.ledger cause)))) ending := by
    rw [run_logout hencloses.givenUpToken?]
    exact hfirst.bind (hsecond.bind (.done _ _))
  refine ⟨ending, ?_, .of_bars fun claims hclaims => ?_, ?_,
    hending.trans hbetween⟩
  · rw [respond_logout hrouted]
    exact hauthenticated.bind (hwork.bind (.done _ _))
  · apply @Token.bars_of_call _ _ _ _ _ (.revoke other) _ hclaims
      (hwritten.bars hclaims) hsecond
    intro given hgiven hsame
    obtain rfl := Option.some.inj hgiven
    exact absurd hsame hkey
  · exact (hwritten.unwritten hfirst.now_le hkey).trans
      (Host.unwritten_of_ledger_eq hsecond.now_le hunanswered.of_error.1)
      hsecond.now_le

/-- The request that shows the sample token for access, with a token for the
exchange in a body that is declared as plain text. -/
def plainLogout : Request where
  method := "POST"
  target := "/api/auth/logout"
  headers := [("authorization", asciiBytes ("Bearer " ++
      Token.sign Token.sampleIssuer.secret accessClaims)),
    ("content-type", asciiBytes "text/plain")]
  body := Token.utf8 (Json.object [("refreshToken", .text (Token.sign
    Token.sampleIssuer.secret (Token.steadyClaims [])))]).print.toList

theorem plainLogout_routedTo : plainLogout.RoutedTo .logout := by
  have hpath : Endpoint.ofPath? (String.ofList
      (pathOfTarget "/api/auth/logout".toList)) =
        some (.guarded .logout) := by
    decide +kernel
  exact ⟨hpath, List.mem_singleton.mpr rfl⟩

theorem plainLogout_undeclared : plainLogout.declaresJson = false := by
  decide +kernel

/-- The token in a body that is declared as plain text is still accepted after
a request to log out has succeeded. -/
theorem logout_revokes_in_turn_sample :
    ∃ ending,
      Endures (.starting (Token.steady.moment []))
        (sampleGateway.respond plainLogout) (some (.success loggedOut))
        ending ∧
      GivenUp Token.sampleIssuer
        (Token.sign Token.sampleIssuer.secret accessClaims) ending ∧
      (ledgerKey (Token.sign Token.sampleIssuer.secret
          (Token.steadyClaims [])) ≠
        ledgerKey (Token.sign Token.sampleIssuer.secret accessClaims) →
        ∃ last, Endures ending (Token.sampleIssuer.verify
          (Token.sign Token.sampleIssuer.secret (Token.steadyClaims []))
            .refresh).run (some (.ok (Token.steadyClaims []))) last) := by
  have hbearer : bearerToken (plainLogout.header? "authorization") =
      .ok (Token.sign Token.sampleIssuer.secret accessClaims) :=
    bearerToken_sign _ _
  have hnone := givenUpToken?_of_undeclared plainLogout_undeclared
  obtain ⟨middle, hmiddle, haccepted⟩ :=
    @Token.endures_verify _ _ _ (.starting (Token.steady.moment []))
      accessClaims_opens.claims_eq (by decide) rfl
  have hauthenticated : Endures (.starting (Token.steady.moment []))
      (sampleGateway.authenticate plainLogout).run
      (some (.ok ⟨accessClaims.subject,
        Token.sign Token.sampleIssuer.secret accessClaims⟩)) middle := by
    rw [run_authenticate hbearer]
    exact haccepted.bind (.done _ _)
  obtain ⟨ending, hending, hrevoked⟩ :=
    @Token.endures_revoke _ _ _ middle accessClaims_opens.claims_eq
      (by rw [hmiddle]; decide) .well
  have hwork : Endures middle (sampleGateway.logout plainLogout
      ⟨accessClaims.subject,
        Token.sign Token.sampleIssuer.secret accessClaims⟩).run
      (some (.ok loggedOut)) ending := by
    rw [run_logout hnone]
    exact hrevoked.bind (.done _ _)
  have hendures : Endures (.starting (Token.steady.moment []))
      (sampleGateway.respond plainLogout) (some (.success loggedOut))
      ending := by
    rw [respond_logout plainLogout_routedTo]
    exact hauthenticated.bind (hwork.bind (.done _ _))
  obtain ⟨-, response, hresponse, ⟨fault, rfl, -⟩ |
    ⟨session, passed, hpasses, hdeparture⟩⟩ :=
    logout_revokes_in_turn plainLogout_routedTo hendures (by simp [hnone])
  · have hsuccess := congrArg Response.status (Option.some.inj hresponse)
    exact absurd hsuccess.symm (status_response_ne fault)
  · obtain rfl := Option.some.inj hresponse
    obtain ⟨givenUp, hbody, hgone, -, hothers⟩ := hdeparture.of_success rfl
    obtain rfl := Except.ok.inj (hnone.symm.trans hbody)
    rw [← Except.ok.inj (hbearer.symm.trans hpasses.shown)] at hgone hothers
    refine ⟨ending, hendures, hgone, fun hkey => ?_⟩
    have hempty : passed.live? (ledgerKey (Token.sign
        Token.sampleIssuer.secret (Token.steadyClaims []))) = none := by
      rw [Host.live?, hpasses.untouched]
      rfl
    have hfree : ending.live? (ledgerKey (Token.sign
        Token.sampleIssuer.secret (Token.steadyClaims []))) = none := by
      rw [hothers _ hkey (by simp), hempty]
      rfl
    obtain ⟨last, -, hkept⟩ := @Token.endures_verify _ _ _ ending
      (Token.steadyClaims_opens []).claims_eq
      (by rw [hending, hmiddle]; decide) hfree
    exact ⟨last, hkept⟩

end CivicRegistry.Http
