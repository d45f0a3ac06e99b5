import CivicRegistry.Http.Gateway
import CivicRegistry.Proofs.Text.Blank
import CivicRegistry.Proofs.Token.Issued

/-!
# Who is let through to the guarded endpoints

A request to a guarded endpoint either shows a token that is accepted for
access at that moment, and then it is handled for the identity in the claims of
the token, or it is refused.  A refusal is the same whatever stands behind the
guard, in the body and in the stores: besides the clock nothing is asked but
the ledger, and the ledger is only looked up.
-/

namespace CivicRegistry.Http

open Service (Procedure Dialogue Surroundings Turn Question)

/-! ## The token that a request shows -/

/-- A header holds a text after the scheme, all of it printable. -/
def Holds (header : Option Digest.Bytes) (text : String) : Prop :=
  header.bind printable? = some ("Bearer " ++ text)

theorem Holds.eq {header : Option Digest.Bytes} {text other : String}
    (hholds : Holds header text) (hother : Holds header other) :
    text = other := by
  have hequal := Option.some.inj (hholds.symm.trans hother)
  rw [← String.toList_inj, String.toList_append, String.toList_append] at hequal
  exact String.toList_injective (List.append_cancel_left hequal)

theorem isPrefixOf_bearerScheme {text : String} :
    bearerScheme.isPrefixOf text.toList = true ↔
      ∃ rest, text = "Bearer " ++ rest := by
  rw [List.isPrefixOf_iff_prefix]
  constructor
  · rintro ⟨rest, hrest⟩
    refine ⟨String.ofList rest, String.toList_injective ?_⟩
    have hlist : (String.ofList rest).toList = rest := String.toList_ofList
    rw [String.toList_append, hlist, ← hrest]
    rfl
  · rintro ⟨rest, rfl⟩
    rw [String.toList_append]
    exact List.prefix_append _ _

theorem bearerToken_of_holds {header : Option Digest.Bytes} {text : String}
    (hholds : Holds header text) :
    bearerToken header =
      if Text.trim text = "" then .error .empty else .ok (Text.trim text) := by
  obtain ⟨bytes, rfl, hprintable⟩ := Option.bind_eq_some_iff.mp hholds
  have hscheme : bearerScheme.isPrefixOf ("Bearer " ++ text).toList = true :=
    isPrefixOf_bearerScheme.mpr ⟨text, rfl⟩
  have hdrop : ("Bearer " ++ text).toList.drop bearerScheme.length =
      text.toList := by
    rw [String.toList_append]
    rfl
  have hempty : (Text.trimmed text.toList).isEmpty = true ↔
      Text.trim text = "" := by
    rw [List.isEmpty_iff, Text.trim, String.ofList_eq_empty_iff]
  rw [bearerToken]
  simp only [Option.elim, bind, Except.bind, hprintable, hscheme, hdrop,
    hempty, if_true]
  rfl

theorem exists_holds_of_bearerToken {header : Option Digest.Bytes}
    {token : String} (hbearer : bearerToken header = .ok token) :
    ∃ text, Holds header text := by
  cases header with
  | none => cases hbearer
  | some bytes =>
    cases hprintable : printable? bytes with
    | none =>
      rw [bearerToken] at hbearer
      simp [hprintable, bind, Except.bind] at hbearer
    | some shown =>
      by_cases hscheme : bearerScheme.isPrefixOf shown.toList = true
      · obtain ⟨text, rfl⟩ := isPrefixOf_bearerScheme.mp hscheme
        exact ⟨text, hprintable⟩
      · rw [bearerToken] at hbearer
        simp [hprintable, bind, Except.bind, hscheme] at hbearer

end CivicRegistry.Http

/-! ## What a refusal asks -/

namespace CivicRegistry.Service

/-- A question that the clock answers, or a look into the ledger. -/
def Question.IsLookup : Question → Prop
  | .moment => True
  | .isRevoked _ => True
  | _ => False

/-- The ledger was looked into and gave no answer. -/
def Turn.IsOutage (turn : Turn) : Prop :=
  ∃ key reply, turn = ⟨.isRevoked key, reply⟩ ∧
    ∀ revoked, reply ≠ .answered revoked

end CivicRegistry.Service

namespace CivicRegistry.Token

open Service (Dialogue Surroundings Turn Reply)

variable {issuer : Issuer} {token : String} {expected : Purpose}
  {surroundings : Surroundings} {past asked : Dialogue}

theorem isLookup_of_prefix
    (hasked : asked <+: [surroundings.momentTurn past,
      surroundings.standingTurn past token]) :
    ∀ turn ∈ asked, turn.question.IsLookup := by
  intro turn hturn
  have hmem := hasked.subset hturn
  simp only [List.mem_cons, List.not_mem_nil, or_false] at hmem
  rcases hmem with rfl | rfl <;> trivial

theorem isOutage_standingTurn_iff :
    (surroundings.standingTurn past token).IsOutage ↔
      ∀ revoked, surroundings.standing past token ≠ .answered revoked := by
  constructor
  · rintro ⟨key, reply, hturn, hreply⟩
    cases hturn
    exact hreply
  · exact fun hreply => ⟨_, _, rfl, hreply⟩

/-- A token is refused for an outage exactly if there was one. -/
theorem exists_outage_iff {fault : Fault}
    (hfirst : FirstObjection issuer token expected (surroundings.moment past)
      (surroundings.standing past token) fault)
    (hasked : asked <+: [surroundings.momentTurn past,
      surroundings.standingTurn past token])
    (hledger : surroundings.standingTurn past token ∈ asked ↔
      LeftToLedger issuer token expected surroundings past) :
    (∃ turn ∈ asked, turn.IsOutage) ↔ ∃ cause, fault = .ledger cause := by
  constructor
  · rintro ⟨turn, hturn, houtage⟩
    have hmem := hasked.subset hturn
    simp only [List.mem_cons, List.not_mem_nil, or_false] at hmem
    rcases hmem with rfl | rfl
    · obtain ⟨key, reply, hmoment, -⟩ := houtage
      cases hmoment
    have hprecedence (cause : LedgerFault)
        (hother : Objection issuer token expected (surroundings.moment past)
          (surroundings.standing past token) (.ledger cause)) :
        fault = .ledger cause :=
      hfirst.applies.eq_of_precedence hother
        (Nat.le_antisymm (hfirst.first _ hother)
          (hledger.mp hturn fault hfirst.applies))
    rw [isOutage_standingTurn_iff] at houtage
    cases hreply : surroundings.standing past token with
    | answered revoked => exact absurd hreply (houtage revoked)
    | failed cause => exact ⟨cause, hprecedence cause (.failing hreply)⟩
    | silent => exact ⟨.timedOut, hprecedence .timedOut (.silent hreply)⟩
  · rintro ⟨cause, rfl⟩
    refine ⟨_, hledger.mpr hfirst.first, isOutage_standingTurn_iff.mpr ?_⟩
    cases hfirst.applies with
    | failing hreply => simp [hreply]
    | silent hreply => simp [hreply]

end CivicRegistry.Token

namespace CivicRegistry.Http

open Service (Procedure Dialogue Surroundings Turn)

/-! ## Attempts question by question -/

section Attempts

variable {ε α β : Type}

/-- How an attempt goes on after a result whose fault is told in another way. -/
def continued (toFault : ε → Fault) (next : α → Attempt β) :
    Except ε α → Procedure (Except Fault β)
  | .ok value => (next value).run
  | .error fault => .done (.error (toFault fault))

theorem run_adapt_bind (toFault : ε → Fault) (attempt : ExceptT ε Procedure α)
    (next : α → Attempt β) :
    (attempt.adapt toFault >>= next).run =
      attempt.run.bind (continued toFault next) := by
  have hrun : (attempt.adapt toFault >>= next).run =
      (attempt.run.bind fun result => .done (result.mapError toFault)).bind
        (ExceptT.bindCont next) := rfl
  rw [hrun, Procedure.bind_bind]
  congr 1
  funext result
  cases result <;> rfl

/-- The response to what an endpoint's work comes to. -/
def responseTo : Except Fault Json → Response
  | .ok data => .success data
  | .error fault => fault.response

theorem responding_eq (attempt : Attempt Json) :
    responding attempt =
      attempt.run.bind fun result => .done (responseTo result) := by
  apply congrArg attempt.run.bind
  funext result
  cases result <;> rfl

end Attempts

/-! ## Authentication -/

section Authentication

variable {gateway : Gateway} {request : Request} {surroundings : Surroundings}
  {past : Dialogue}

/-- The request shows a token that passes the check for access. -/
structure Admitted (gateway : Gateway) (request : Request)
    (surroundings : Surroundings) (past : Dialogue) (token : String)
    (claims : Token.Claims) (later : Dialogue) : Prop where
  shown : ∃ text, Holds (request.header? "authorization") text ∧
    token = Text.trim text
  accepted : surroundings.carryOut
    (gateway.issuer.verify token .access).run past = (some (.ok claims), later)

/-- A request is let through for one token and its claims alone. -/
theorem Admitted.eq {token given : String} {claims other : Token.Claims}
    {later last : Dialogue}
    (hadmitted : Admitted gateway request surroundings past token claims later)
    (hgiven : Admitted gateway request surroundings past given other last) :
    token = given ∧ claims = other := by
  obtain ⟨⟨text, hholds, rfl⟩, haccepted⟩ := hadmitted
  obtain ⟨⟨shown, hshown, rfl⟩, hchecked⟩ := hgiven
  obtain rfl := hholds.eq hshown
  refine ⟨rfl, ?_⟩
  rw [haccepted] at hchecked
  exact Except.ok.inj (Option.some.inj (Prod.ext_iff.mp hchecked).1)

/-- What the guard makes of the check of a token. -/
def sessionOf (token : String) :
    Except Token.Fault Token.Claims → Except Fault Session
  | .ok claims => .ok ⟨claims.subject, token⟩
  | .error fault => .error (.ofToken fault)

theorem run_authenticate {token : String}
    (hbearer : bearerToken (request.header? "authorization") = .ok token) :
    (gateway.authenticate request).run =
      (gateway.issuer.verify token .access).run.bind fun result =>
        .done (sessionOf token result) := by
  have hrun : (gateway.authenticate request).run =
      ((gateway.issuer.verify token .access).run.bind fun result =>
        .done (result.mapError Fault.ofToken)).bind
          (ExceptT.bindCont fun claims => pure ⟨claims.subject, token⟩) := by
    rw [Gateway.authenticate, hbearer]
    rfl
  rw [hrun, Procedure.bind_bind]
  congr 1
  funext result
  cases result <;> rfl

theorem carryOut_authenticate {token : String} {later : Dialogue}
    {result : Except Token.Fault Token.Claims}
    (hbearer : bearerToken (request.header? "authorization") = .ok token)
    (hchecked : surroundings.carryOut
      (gateway.issuer.verify token .access).run past = (some result, later)) :
    surroundings.carryOut (gateway.authenticate request).run past =
      (some (sessionOf token result), later) := by
  rw [run_authenticate hbearer, surroundings.carryOut_bind_of_some hchecked]
  rfl

theorem run_authenticate_of_error {fault : BearerFault}
    (hbearer : bearerToken (request.header? "authorization") = .error fault) :
    (gateway.authenticate request).run =
      .done (.error (.unauthorized fault.message)) := by
  rw [Gateway.authenticate, hbearer]
  rfl

/-- Nobody is let through with the empty text. -/
theorem claimsOf_empty (issuer : Token.Issuer) :
    issuer.claimsOf "" = .error (.malformed .parts) := rfl

theorem not_admitted_of_error {fault : BearerFault}
    (hbearer : bearerToken (request.header? "authorization") = .error fault)
    {token : String} {claims : Token.Claims} {later : Dialogue} :
    ¬Admitted gateway request surroundings past token claims later := by
  rintro ⟨⟨text, hholds, rfl⟩, haccepted⟩
  rw [bearerToken_of_holds hholds] at hbearer
  split at hbearer
  · next hempty =>
    rw [hempty, Token.Issuer.verify, claimsOf_empty] at haccepted
    cases haccepted
  · cases hbearer

/-- The token of a request is the trimmed text after the scheme. -/
theorem eq_of_shown {token : String}
    (hbearer : bearerToken (request.header? "authorization") = .ok token)
    {text : String} (hholds : Holds (request.header? "authorization") text) :
    token = Text.trim text := by
  rw [bearerToken_of_holds hholds] at hbearer
  split at hbearer
  · cases hbearer
  · exact (Except.ok.inj hbearer).symm

/-- A refusal is told as an outage of the service exactly if the ledger gave no
answer, and otherwise as a lack of authority. -/
def ToldBy (asked : Dialogue) (status : Nat) : Prop :=
  (status = 503 ∧ ∃ turn ∈ asked, turn.IsOutage) ∨
    (status = 401 ∧ ∀ turn ∈ asked, ¬turn.IsOutage)

theorem toldBy_ofToken {token : String} {asked : Dialogue}
    {fault : Token.Fault}
    (hfirst : Token.FirstObjection gateway.issuer token .access
      (surroundings.moment past) (surroundings.standing past token) fault)
    (houtage : (∃ turn ∈ asked, turn.IsOutage) ↔
      ∃ cause, fault = .ledger cause) :
    ToldBy asked (Fault.ofToken fault).status := by
  cases hfirst.applies with
  | failing => exact .inl ⟨rfl, houtage.mpr ⟨_, rfl⟩⟩
  | silent => exact .inl ⟨rfl, houtage.mpr ⟨_, rfl⟩⟩
  | _ =>
    refine .inr ⟨rfl, fun turn hturn hout => ?_⟩
    obtain ⟨cause, hcause⟩ := houtage.mp ⟨turn, hturn, hout⟩
    cases hcause

/-- What comes of authenticating a request, besides what was asked for it. -/
inductive Authenticated (gateway : Gateway) (request : Request)
    (surroundings : Surroundings) (past asked : Dialogue) :
    Except Fault Session → Prop where
  | admitted {token : String} {claims : Token.Claims}
      (hadmitted : Admitted gateway request surroundings past token claims
        (past ++ asked)) :
      Authenticated gateway request surroundings past asked
        (.ok ⟨claims.subject, token⟩)
  | refused {fault : Fault}
      (hnobody : ∀ token claims later,
        ¬Admitted gateway request surroundings past token claims later)
      (htold : ToldBy asked fault.status) :
      Authenticated gateway request surroundings past asked (.error fault)

variable (gateway request surroundings past)

theorem exists_authenticated :
    ∃ result asked,
      surroundings.carryOut (gateway.authenticate request).run past =
          (some result, past ++ asked) ∧
        Authenticated gateway request surroundings past asked result ∧
        ∀ turn ∈ asked, turn.question.IsLookup := by
  cases hbearer : bearerToken (request.header? "authorization") with
  | error fault =>
    refine ⟨.error (.unauthorized fault.message), [], ?_,
      .refused (fun _ _ _ => not_admitted_of_error hbearer)
        (.inr ⟨rfl, by simp⟩), by simp⟩
    rw [run_authenticate_of_error hbearer, List.append_nil]
    rfl
  | ok token =>
    obtain ⟨text, hholds⟩ := exists_holds_of_bearerToken hbearer
    obtain ⟨result, asked, hcarried, hverdict, hasked, hledger⟩ :=
      Token.exists_verdict gateway.issuer token .access surroundings past
    refine ⟨sessionOf token result, asked,
      carryOut_authenticate hbearer hcarried, ?_,
      Token.isLookup_of_prefix hasked⟩
    cases hverdict with
    | accepted haccepted =>
      exact .admitted ⟨⟨text, hholds, eq_of_shown hbearer hholds⟩, hcarried⟩
    | refused hfirst =>
      refine .refused (fun other claims later hadmitted => ?_)
        (toldBy_ofToken hfirst
          (Token.exists_outage_iff hfirst hasked hledger))
      obtain ⟨⟨shown, hshown, rfl⟩, haccepted⟩ := hadmitted
      rw [← eq_of_shown hbearer hshown, hcarried] at haccepted
      cases haccepted

end Authentication

/-! ## Requests that show a token -/

/-- The bytes of a text of ASCII. -/
def asciiBytes (text : String) : Digest.Bytes :=
  text.toList.map fun c => UInt8.ofNat c.toNat

theorem printable?_asciiBytes {text : String}
    (hascii : ∀ c ∈ text.toList, 32 ≤ c.toNat ∧ c.toNat < 127) :
    printable? (asciiBytes text) = some text := by
  have hbyte : ∀ c ∈ text.toList, (UInt8.ofNat c.toNat).toNat = c.toNat := by
    intro c hc
    obtain ⟨-, hbelow⟩ := hascii c hc
    rw [UInt8.toNat_ofNat', Nat.mod_eq_of_lt (by omega)]
  have hall : (asciiBytes text).all (fun byte =>
      byte = 9 || (32 ≤ byte && byte < 127)) = true := by
    rw [asciiBytes, List.all_map, List.all_eq_true]
    intro c hc
    obtain ⟨habove, hbelow⟩ := hascii c hc
    have hle : (32 : UInt8) ≤ UInt8.ofNat c.toNat := by
      rw [UInt8.le_iff_toNat_le, hbyte c hc]
      exact habove
    have hlt : UInt8.ofNat c.toNat < (127 : UInt8) := by
      rw [UInt8.lt_iff_toNat_lt, hbyte c hc]
      exact hbelow
    simp [hle, hlt]
  have hchars : (asciiBytes text).map (fun byte => Char.ofNat byte.toNat) =
      text.toList := by
    rw [asciiBytes, List.map_map]
    calc
      text.toList.map _ = text.toList.map id :=
        List.map_congr_left fun c hc => by
          rw [Function.comp_apply, hbyte c hc, Char.ofNat_toNat, id_eq]
      _ = text.toList := List.map_id _
  rw [printable?, if_pos hall, hchars, String.ofList_toList]

/-- The characters of a signed token are visible characters of ASCII. -/
theorem visible_sign (secret : Token.Secret) (claims : Token.Claims) :
    ∀ c ∈ (Token.sign secret claims).toList, 32 < c.toNat ∧ c.toNat < 127 := by
  have hdigit : ∀ n < 64, 32 < (Text.Base64Url.digit n).toNat ∧
      (Text.Base64Url.digit n).toNat < 127 := by decide
  have hencode : ∀ bytes, ∀ c ∈ Text.Base64Url.encode bytes,
      32 < c.toNat ∧ c.toNat < 127 := by
    intro bytes c hc
    rw [Text.Base64Url.encode_eq_map] at hc
    obtain ⟨n, hn, rfl⟩ := List.mem_map.mp hc
    exact hdigit n (Text.Base64Url.sextets_lt bytes n hn)
  intro c hc
  rw [Token.sign, String.toList_ofList, Token.message] at hc
  simp only [List.append_assoc, List.cons_append, List.mem_append,
    List.mem_cons] at hc
  rcases hc with hheader | rfl | hclaims | rfl | hsignature
  · exact hencode _ c hheader
  · decide
  · exact hencode _ c hclaims
  · decide
  · exact hencode _ c hsignature

/-- A signed token can be shown after the scheme. -/
theorem holds_sign (secret : Token.Secret) (claims : Token.Claims) :
    Holds (some (asciiBytes ("Bearer " ++ Token.sign secret claims)))
        (Token.sign secret claims) ∧
      Text.trim (Token.sign secret claims) = Token.sign secret claims := by
  have hvisible := visible_sign secret claims
  have hprintable : "Bearer ".toList.all
      (fun c => 32 ≤ c.toNat && c.toNat < 127) = true := by decide
  have htrimmed := Text.isTrimmed_of_forall fun c hc =>
    Text.isBlank_of_visible (hvisible c hc).1 (hvisible c hc).2
  refine ⟨?_, Text.trim_eq_self htrimmed⟩
  rw [Holds, Option.bind_some, printable?_asciiBytes]
  intro c hc
  rw [String.toList_append, List.mem_append] at hc
  rcases hc with hscheme | htoken
  · simpa using List.all_eq_true.mp hprintable c hscheme
  · exact ⟨Nat.le_of_lt (hvisible c htoken).1, (hvisible c htoken).2⟩

theorem bearerToken_sign (secret : Token.Secret) (claims : Token.Claims) :
    bearerToken
        (some (asciiBytes ("Bearer " ++ Token.sign secret claims))) =
      .ok (Token.sign secret claims) := by
  obtain ⟨hholds, htrim⟩ := holds_sign secret claims
  have hne : Token.sign secret claims ≠ "" := by
    intro hempty
    have hchars := congrArg String.toList hempty
    rw [Token.sign, String.toList_ofList] at hchars
    simp at hchars
  rw [bearerToken_of_holds hholds, htrim, if_neg hne]

/-- Whoever shows a signed token for access is let through until it expires,
as long as it is not revoked. -/
theorem exists_admitted_of_opens {gateway : Gateway} {request : Request}
    {surroundings : Surroundings} {past : Dialogue} {secret : Token.Secret}
    {claims : Token.Claims}
    (hheader : request.header? "authorization" =
      some (asciiBytes ("Bearer " ++ Token.sign secret claims)))
    (hopens : Token.Opens gateway.issuer (Token.sign secret claims) claims)
    (hpurpose : claims.purpose = .access)
    (hahead : (surroundings.moment past).second < claims.expiresAt)
    (habsent : surroundings.standing past (Token.sign secret claims) =
      .answered false) :
    ∃ later, Admitted gateway request surroundings past
      (Token.sign secret claims) claims later := by
  obtain ⟨hholds, htrim⟩ := holds_sign secret claims
  have haccepted := hopens.accepted surroundings past hahead habsent
  rw [hpurpose] at haccepted
  refine ⟨_, ⟨_, ?_, htrim.symm⟩, Prod.ext haccepted rfl⟩
  rw [hheader]
  exact hholds

/-! ## The guard -/

section Guard

variable {gateway : Gateway} {request : Request} {surroundings : Surroundings}
  {past later : Dialogue}

theorem carryOut_guarded_of_ok {session : Session}
    (hauthenticated : surroundings.carryOut
      (gateway.authenticate request).run past = (some (.ok session), later))
    (handler : Session → Procedure Response)
    (next : Response → Procedure Response) :
    surroundings.carryOut ((gateway.guarded request handler).bind next) past =
      surroundings.carryOut ((handler session).bind next) later := by
  rw [Gateway.guarded, Procedure.bind_eq, Procedure.bind_bind]
  exact surroundings.carryOut_bind_of_some hauthenticated _

theorem carryOut_guarded_of_error {fault : Fault}
    (hauthenticated : surroundings.carryOut
      (gateway.authenticate request).run past = (some (.error fault), later))
    (handler : Session → Procedure Response) :
    surroundings.carryOut (gateway.guarded request handler) past =
      (some fault.response, later) := by
  rw [Gateway.guarded]
  exact surroundings.carryOut_bind_of_some hauthenticated _

/-- The request is for a guarded endpoint, by one of its methods. -/
def Request.RoutedTo (request : Request) (endpoint : GuardedEndpoint) : Prop :=
  Endpoint.ofPath? (String.ofList (pathOfTarget request.target.toList)) =
      some (.guarded endpoint) ∧
    request.method ∈ endpoint.access.methods

/-- What a request gets of a response: the head alone if it asks for that. -/
def Request.received (request : Request) (response : Response) : Response :=
  if request.method = "HEAD" then response.withoutBody else response

theorem respond_eq {endpoint : GuardedEndpoint}
    (hrouted : request.RoutedTo endpoint) :
    gateway.respond request =
      (gateway.guarded request fun session =>
        gateway.handleGuarded request session endpoint).bind fun response =>
          .done (request.received response) := by
  obtain ⟨hpath, hmethod⟩ := hrouted
  have hoptions : request.method ≠ "OPTIONS" := by
    rintro hoptions
    rw [hoptions] at hmethod
    revert hmethod
    cases endpoint.access <;> decide
  have hlisted : request.method ∈ (Endpoint.guarded endpoint).access.methods :=
    hmethod
  rw [Gateway.respond, hpath]
  dsimp only
  rw [Gateway.respondAt, if_neg hoptions, if_pos hlisted]
  rfl

/-- The request is refused: whatever stands behind the guard, and whatever the
body, the other headers and everything but the clock and the ledger's lookups
are, it gets the same response to the same questions. -/
structure Refused (gateway : Gateway) (request : Request)
    (surroundings : Surroundings) (past : Dialogue) (refusal : Response)
    (asked : Dialogue) : Prop where
  answered : surroundings.carryOut (gateway.respond request) past =
    (some (request.received refusal), past ++ asked)
  told : ToldBy asked (request.received refusal).status
  looked : ∀ turn ∈ asked, turn.question.IsLookup
  unreached : ∀ handler : Session → Procedure Response,
    surroundings.carryOut (gateway.guarded request handler) past =
      (some refusal, past ++ asked)
  blind : ∀ (other : Request) (elsewhere : Surroundings),
    other.method = request.method → other.target = request.target →
    other.header? "authorization" = request.header? "authorization" →
    (∀ dialogue question, question.IsLookup →
      elsewhere.answer dialogue question =
        surroundings.answer dialogue question) →
    elsewhere.carryOut (gateway.respond other) past =
      (some (request.received refusal), past ++ asked)

theorem status_received (request : Request) (response : Response) :
    (request.received response).status = response.status := by
  rw [Request.received]
  split <;> rfl

theorem authenticate_congr {other : Request}
    (hheader : other.header? "authorization" =
      request.header? "authorization") :
    gateway.authenticate other = gateway.authenticate request := by
  rw [Gateway.authenticate, Gateway.authenticate, hheader]

/-- A request whose authentication fails gets the fault for a response. -/
theorem carryOut_respond_of_error {endpoint : GuardedEndpoint}
    (hrouted : request.RoutedTo endpoint) {fault : Fault}
    (hauthenticated : surroundings.carryOut
      (gateway.authenticate request).run past = (some (.error fault), later)) :
    surroundings.carryOut (gateway.respond request) past =
      (some (request.received fault.response), later) := by
  rw [respond_eq hrouted, surroundings.carryOut_bind_of_some
    (carryOut_guarded_of_error hauthenticated _)]
  rfl

theorem refused_of_error {endpoint : GuardedEndpoint} {fault : Fault}
    {asked : Dialogue} (hrouted : request.RoutedTo endpoint)
    (hauthenticated : surroundings.carryOut
      (gateway.authenticate request).run past =
        (some (.error fault), past ++ asked))
    (htold : ToldBy asked fault.status)
    (hlooked : ∀ turn ∈ asked, turn.question.IsLookup) :
    Refused gateway request surroundings past fault.response asked where
  answered := carryOut_respond_of_error hrouted hauthenticated
  told := by
    rw [status_received]
    exact htold
  looked := hlooked
  unreached := carryOut_guarded_of_error hauthenticated
  blind other elsewhere hmethod htarget hheader halike := by
    have hother : other.RoutedTo endpoint := by
      rw [Request.RoutedTo, hmethod, htarget]
      exact hrouted
    -- only lookups led to the refusal, and elsewhere they are answered alike
    have helsewhere := Surroundings.carryOut_congr halike hauthenticated hlooked
    rw [← authenticate_congr hheader] at helsewhere
    have hreceived : other.received fault.response =
        request.received fault.response := by
      rw [Request.received, Request.received, hmethod]
    rw [← hreceived]
    exact carryOut_respond_of_error hother helsewhere

end Guard

/-- The guarded endpoints are those under `/api`. -/
theorem under_api_iff (endpoint : Endpoint) :
    "/api/".toList <+: endpoint.path.toList ↔
      ∃ guarded, endpoint = .guarded guarded := by
  cases endpoint with
  | toAll endpoint =>
    refine iff_of_false ?_ fun ⟨_, hguarded⟩ => Endpoint.noConfusion hguarded
    cases endpoint <;> decide
  | guarded endpoint =>
    refine iff_of_true ?_ ⟨endpoint, rfl⟩
    cases endpoint with
    | whoami => decide
    | logout => decide
    | search entity =>
      rw [Endpoint.path, GuardedEndpoint.path, String.toList_append,
        String.toList_append, List.append_assoc]
      exact List.prefix_append _ _
    | fields entity =>
      rw [Endpoint.path, GuardedEndpoint.path, String.toList_append,
        String.toList_append, List.append_assoc]
      exact List.prefix_append _ _

/-- The guarded endpoints are those under `/api`.  A request to one of them is
handled, for the identity in the claims, if it shows a token that passes the
check for access, and is refused if it shows none. -/
theorem admitted_or_refused (gateway : Gateway) (request : Request)
    (endpoint : GuardedEndpoint) (surroundings : Surroundings)
    (past : Dialogue) (hrouted : request.RoutedTo endpoint) :
    (∀ other : Endpoint, "/api/".toList <+: other.path.toList ↔
      ∃ guarded, other = .guarded guarded) ∧
    ((∃ token claims later,
        Admitted gateway request surroundings past token claims later ∧
          surroundings.carryOut (gateway.respond request) past =
            surroundings.carryOut ((gateway.handleGuarded request
              ⟨claims.subject, token⟩ endpoint).bind fun response =>
                .done (request.received response)) later) ∨
      ((∀ token claims later,
          ¬Admitted gateway request surroundings past token claims later) ∧
        ∃ refusal asked,
          Refused gateway request surroundings past refusal asked)) := by
  refine ⟨under_api_iff, ?_⟩
  obtain ⟨result, asked, hcarried, hauthenticated, hlooked⟩ :=
    exists_authenticated gateway request surroundings past
  cases hauthenticated with
  | admitted hadmitted =>
    refine .inl ⟨_, _, _, hadmitted, ?_⟩
    rw [respond_eq hrouted, carryOut_guarded_of_ok hcarried]
  | refused hnobody htold =>
    exact .inr ⟨hnobody, _, asked,
      refused_of_error hrouted hcarried htold hlooked⟩

/-- A gateway over the sample issuer. -/
def sampleGateway : Gateway :=
  ⟨Token.sampleIssuer, ⟨20, .ofSeconds 5⟩⟩

/-- A question for the identity behind a token. -/
def whoami (claims : Token.Claims) : Request where
  method := "GET"
  target := "/api/auth/whoami"
  headers := [("authorization", asciiBytes
    ("Bearer " ++ Token.sign Token.sampleIssuer.secret claims))]
  body := []

theorem whoami_routedTo (claims : Token.Claims) :
    (whoami claims).RoutedTo .whoami := by
  have hpath : Endpoint.ofPath? (String.ofList
      (pathOfTarget "/api/auth/whoami".toList)) =
        some (.guarded .whoami) := by
    decide +kernel
  have hmethod : "GET" ∈ Access.reading.methods := by decide
  exact ⟨hpath, hmethod⟩

/-- The claims of a token for access of the sample user. -/
def accessClaims : Token.Claims :=
  Token.steady.issued [] Token.sampleSubject .access
    Token.sampleIssuer.accessLifetime

theorem accessClaims_opens :
    Token.Opens Token.sampleIssuer
      (Token.sign Token.sampleIssuer.secret accessClaims) accessClaims := by
  have htimed : accessClaims.Timed :=
    Token.issued_timed (by decide) (by decide)
  exact (htimed.bears Token.sampleIssuer.secret).opens_of_nonneg (by decide)

/-- The token for access is let through and the one for the exchange is not. -/
theorem admitted_or_refused_sample :
    (∃ later, Token.steady.carryOut
        (sampleGateway.respond (whoami accessClaims)) [] =
          (some (.success (Gateway.identityJson Token.sampleSubject)),
            later)) ∧
      ∃ refusal asked, Refused sampleGateway (whoami (Token.steadyClaims []))
        Token.steady [] refusal asked ∧ refusal.status = 401 := by
  constructor
  · obtain ⟨last, hlast⟩ : ∃ later, Admitted sampleGateway
        (whoami accessClaims) Token.steady []
        (Token.sign Token.sampleIssuer.secret accessClaims) accessClaims
        later :=
      exists_admitted_of_opens rfl accessClaims_opens rfl (by decide) rfl
    rcases (admitted_or_refused sampleGateway (whoami accessClaims) .whoami
      Token.steady [] (whoami_routedTo accessClaims)).2 with
      ⟨token, claims, later, hadmitted, hhandled⟩ | ⟨hnobody, -⟩
    · obtain ⟨rfl, rfl⟩ := hadmitted.eq hlast
      exact ⟨later, hhandled⟩
    · exact absurd hlast (hnobody _ _ _)
  · have hbearer : bearerToken
        ((whoami (Token.steadyClaims [])).header? "authorization") =
          .ok (Token.sign Token.sampleIssuer.secret (Token.steadyClaims [])) :=
      bearerToken_sign Token.sampleIssuer.secret (Token.steadyClaims [])
    have hwrong := (Token.steadyClaims_opens []).refused Token.steady []
      .access (by decide) (by decide)
    rcases (admitted_or_refused sampleGateway (whoami (Token.steadyClaims []))
      .whoami Token.steady [] (whoami_routedTo (Token.steadyClaims []))).2 with
      ⟨token, claims, later, hadmitted, -⟩ | ⟨-, refusal, asked, hrefused⟩
    · obtain ⟨⟨text, hshown, rfl⟩, haccepted⟩ := hadmitted
      rw [← eq_of_shown hbearer hshown] at haccepted
      cases hwrong.symm.trans (Prod.ext_iff.mp haccepted).1
    · have hresponse := hrefused.unreached fun _ => .broken
      have hauthenticated := @carryOut_authenticate sampleGateway _
        Token.steady [] _ _ _ hbearer (Prod.ext hwrong rfl)
      rw [carryOut_guarded_of_error hauthenticated] at hresponse
      refine ⟨refusal, asked, hrefused, ?_⟩
      rw [← Option.some.inj (Prod.ext_iff.mp hresponse).1]
      rfl

end CivicRegistry.Http
