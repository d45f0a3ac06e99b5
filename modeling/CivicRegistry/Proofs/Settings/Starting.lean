import CivicRegistry.Proofs.Token.Issued
import CivicRegistry.Settings.Check
import CivicRegistry.Settings.Environment

/-!
# Starting with settings

The service starts with an issuer that signs with the secret of its settings
and whose tokens are good for the lifetimes they name.  The checks on starting
see to the secret outside development and to the locators.  They do not look at
the lifetimes: those are to be no longer than a lifetime can be, and to end
within the calendar when a pair is issued.
-/

namespace CivicRegistry.Token

open Calendar (Instant)
open Service (Dialogue Surroundings)

namespace Lifetime

/-- The lifetime of a number of seconds. -/
def ofSeconds (seconds : Int) : Lifetime :=
  ⟨seconds * Instant.nanosPerSecond⟩

/-- The most seconds that a lifetime has in either direction. -/
def largestSeconds : Nat := 9223372036854775

theorem ofSeconds?_eq (seconds : Int) :
    ofSeconds? seconds =
      if seconds.natAbs ≤ largestSeconds then some (ofSeconds seconds)
      else none := by
  have hlargest : largestMillis = 9223372036854775807 := rfl
  rw [ofSeconds?, hlargest, largestSeconds]
  exact if_congr (by omega) rfl rfl

theorem seconds_ofSeconds (seconds : Int) :
    (ofSeconds seconds).seconds = seconds :=
  Int.mul_tdiv_cancel _ (by decide)

end Lifetime

theorem Issuer.ofSecret_eq_ok_iff {secret : Secret} {access refresh : Lifetime}
    {issuer : Issuer} :
    ofSecret secret access refresh = .ok issuer ↔
      issuer.secret = secret ∧ issuer.accessLifetime = access ∧
        issuer.refreshLifetime = refresh := by
  obtain ⟨key, first, second, hkey⟩ := issuer
  rw [ofSecret]
  split
  · next hempty =>
    exact iff_of_false nofun fun hequal => hkey (hequal.1.trans hempty)
  · next hproper =>
    rw [Except.ok.injEq, Issuer.mk.injEq]
    exact and_congr eq_comm (and_congr eq_comm eq_comm)

/-! ## Issuing a pair -/

/-- A pair is issued if both of its tokens end within the calendar; the clock
is read for each. -/
theorem carryOut_issuePair (issuer : Issuer) (subject : Subject)
    (surroundings : Surroundings) (past : Dialogue) :
    (surroundings.carryOut (issuer.issuePair subject) past).1 =
      let later := surroundings.afterToken past
      if (issuer.accessLifetime.ending (surroundings.moment past)).IsDated ∧
          (issuer.refreshLifetime.ending (surroundings.moment later)).IsDated
      then some ⟨
        sign issuer.secret
          (surroundings.issued past subject .access issuer.accessLifetime),
        sign issuer.secret
          (surroundings.issued later subject .refresh issuer.refreshLifetime),
        issuer.accessLifetime.seconds⟩
      else none := by
  have haccess := carryOut_issue_eq issuer subject .access
    issuer.accessLifetime surroundings past
  have hrefresh := carryOut_issue_eq issuer subject .refresh
    issuer.refreshLifetime surroundings (surroundings.afterToken past)
  rw [Issuer.issuePair, Service.Procedure.bind_eq]
  split at haccess
  · next hfirst =>
    rw [surroundings.carryOut_bind_of_some haccess]
    split at hrefresh
    · next hsecond =>
      rw [Service.Procedure.bind_eq,
        surroundings.carryOut_bind_of_some hrefresh]
      exact (if_pos ⟨hfirst, hsecond⟩).symm
    · next hsecond =>
      rw [Service.Procedure.bind_eq,
        surroundings.carryOut_bind_of_none hrefresh]
      exact (if_neg fun hboth => hsecond hboth.2).symm
  · next hfirst =>
    rw [surroundings.carryOut_bind_of_none haccess]
    exact (if_neg fun hboth => hfirst hboth.1).symm

end CivicRegistry.Token

namespace CivicRegistry.Settings

open Service (Dialogue Surroundings)
open Token (Issuer Lifetime Subject)

/-! ## What the checks see to -/

theorem checkUrl_eq_ok_iff {name : String} {url : Option String} :
    checkUrl name url = .ok () ↔ url.all Url.isValid = true := by
  rw [checkUrl]
  split
  · next hvalid => exact iff_of_true rfl hvalid
  · next hvalid => exact iff_of_false nofun hvalid

theorem checkSecret_eq_ok_iff {settings : Settings} :
    settings.checkSecret = .ok () ↔
      (settings.stage ≠ .development →
        (Text.trim settings.security.secret).isEmpty = false) := by
  rw [checkSecret, ← Bool.not_eq_true, ← not_and]
  split
  · next hblank => exact iff_of_false nofun (not_not_intro hblank)
  · next hblank => exact iff_of_true rfl hblank

/-- What settings have to be like to pass the checks. -/
theorem check_eq_ok_iff {settings : Settings} :
    settings.check = .ok () ↔
      (settings.stage ≠ .development →
        (Text.trim settings.security.secret).isEmpty = false) ∧
      settings.database.url.all Url.isValid = true ∧
      settings.cache.url.all Url.isValid = true := by
  rw [← checkSecret_eq_ok_iff, ← @checkUrl_eq_ok_iff "DATABASE_URL",
    ← @checkUrl_eq_ok_iff "REDIS_URL", check]
  cases settings.checkSecret with
  | error fault => exact iff_of_false nofun nofun
  | ok =>
    cases checkUrl "DATABASE_URL" settings.database.url with
    | error fault => exact iff_of_false nofun nofun
    | ok => exact ⟨fun hcache => ⟨rfl, rfl, hcache⟩, fun hparts => hparts.2.2⟩

theorem secret_ne_of_check {settings : Settings}
    (hcheck : settings.check = .ok ())
    (hstage : settings.stage ≠ .development) :
    settings.security.secret ≠ "" := by
  intro hsecret
  have hproper := (check_eq_ok_iff.mp hcheck).1 hstage
  rw [hsecret] at hproper
  exact absurd hproper (by decide)

/-! ## Settings of an environment -/

theorem stage_ofEnvironment (environment : Environment) :
    (ofEnvironment environment).stage =
      stageOfName (environment "APP_ENV") := by
  rw [ofEnvironment]
  cases stageOfName (environment "APP_ENV") <;> rfl

/-- A text needs no reading. -/
theorem overriding_some (environment : Environment) (name current : String) :
    overriding environment name some current =
      (environment name).getD current := by
  rw [overriding, Option.bind_fun_some]

theorem secret_ofEnvironment (environment : Environment) :
    (ofEnvironment environment).security.secret =
      (environment "JWT_SECRET").getD
        (ofStage (ofEnvironment environment).stage).security.secret := by
  rw [stage_ofEnvironment]
  exact overriding_some environment "JWT_SECRET" _

/-- In development there is a secret unless the environment has an empty one;
elsewhere the checks see to it. -/
theorem secret_ofEnvironment_ne {environment : Environment}
    (hcheck : (ofEnvironment environment).check = .ok ())
    (hvariable : (ofEnvironment environment).stage = .development →
      environment "JWT_SECRET" ≠ some "") :
    (ofEnvironment environment).security.secret ≠ "" := by
  by_cases hstage : (ofEnvironment environment).stage = .development
  · rw [secret_ofEnvironment, hstage]
    cases hsecret : environment "JWT_SECRET" with
    | none => decide
    | some secret => exact fun hempty => hvariable hstage (hempty ▸ hsecret)
  · exact secret_ne_of_check hcheck hstage

/-! ## The issuer -/

namespace Security

/-- The issuer that the service starts with, or why it has none; nothing where
a lifetime is too long. -/
def issuer? (security : Security) : Option (Except Token.Fault Issuer) := do
  let access ← security.accessLifetime?
  let refresh ← security.refreshLifetime?
  return Issuer.ofSecret security.secret access refresh

/-- There is an issuer exactly if the secret is not empty and both lifetimes
are short enough. -/
theorem issuer?_eq_ok_iff {security : Security} {issuer : Issuer} :
    security.issuer? = some (.ok issuer) ↔
      (security.accessMinutes * 60).natAbs ≤ Lifetime.largestSeconds ∧
      (security.refreshHours * 3600).natAbs ≤ Lifetime.largestSeconds ∧
      issuer.secret = security.secret ∧
      issuer.accessLifetime = .ofSeconds (security.accessMinutes * 60) ∧
      issuer.refreshLifetime = .ofSeconds (security.refreshHours * 3600) := by
  rw [issuer?, accessLifetime?, refreshLifetime?, Lifetime.ofSeconds?_eq,
    Lifetime.ofSeconds?_eq]
  split
  · next haccess =>
    split
    · next hrefresh =>
      rw [Option.bind_eq_bind, Option.bind_some, Option.bind_some,
        Option.pure_def, Option.some_inj, Issuer.ofSecret_eq_ok_iff]
      exact ⟨fun hissuer => ⟨haccess, hrefresh, hissuer⟩,
        fun hissuer => hissuer.2.2⟩
    · next hrefresh =>
      exact iff_of_false nofun fun hissuer => hrefresh hissuer.2.1
  · next haccess =>
    exact iff_of_false nofun fun hissuer => haccess hissuer.1

end Security

/-- Settings that pass the checks give the service an issuer, if in development
the environment does not empty the secret and both lifetimes are short enough.
The issuer holds the secret and the lifetimes of the settings, and issues a
pair for every subject whenever both of its tokens end within the calendar. -/
theorem issuer_of_check (environment : Environment) (settings : Settings)
    (hsettings : ofEnvironment environment = settings)
    (hcheck : settings.check = .ok ())
    (hvariable : settings.stage = .development →
      environment "JWT_SECRET" ≠ some "")
    (haccess : (settings.security.accessMinutes * 60).natAbs ≤
      Lifetime.largestSeconds)
    (hrefresh : (settings.security.refreshHours * 3600).natAbs ≤
      Lifetime.largestSeconds) :
    ∃ issuer, settings.security.issuer? = some (.ok issuer) ∧
      issuer.secret = settings.security.secret ∧
      issuer.accessLifetime =
        .ofSeconds (settings.security.accessMinutes * 60) ∧
      issuer.refreshLifetime =
        .ofSeconds (settings.security.refreshHours * 3600) ∧
      ∀ (subject : Subject) (surroundings : Surroundings) (past : Dialogue),
        (issuer.accessLifetime.ending (surroundings.moment past)).IsDated →
        (issuer.refreshLifetime.ending (surroundings.moment
          (surroundings.afterToken past))).IsDated →
        ∃ pair, (surroundings.carryOut (issuer.issuePair subject) past).1 =
            some pair ∧
          pair.expiresIn = settings.security.accessMinutes * 60 := by
  subst hsettings
  have hsecret := secret_ofEnvironment_ne hcheck hvariable
  refine ⟨⟨_, .ofSeconds _, .ofSeconds _, hsecret⟩, ?_, rfl, rfl, rfl, ?_⟩
  · exact Security.issuer?_eq_ok_iff.mpr ⟨haccess, hrefresh, rfl, rfl, rfl⟩
  · intro subject surroundings past hfirst hsecond
    rw [Token.carryOut_issuePair]
    exact ⟨_, if_pos ⟨hfirst, hsecond⟩, Lifetime.seconds_ofSeconds _⟩

/-- The environment in which nothing but the given variables is set. -/
def ofVariables (given : List (String × String)) : Environment :=
  fun name => given.lookup name

def sampleEnvironment : Environment :=
  ofVariables [("APP_ENV", "production"), ("JWT_SECRET", " s3cret "),
    ("SECURITY_ACCESS_TOKEN_EXPIRY_MINUTES", "90")]

theorem issuer_of_check_sample :
    ∃ issuer pair,
      (ofEnvironment sampleEnvironment).security.issuer? =
        some (.ok issuer) ∧
      issuer.secret = " s3cret " ∧
      (Token.steady.carryOut (issuer.issuePair Token.sampleSubject) []).1 =
        some pair ∧
      pair.expiresIn = 5400 := by
  obtain ⟨issuer, hissuer, hsecret, haccess, hrefresh, hissues⟩ :=
    issuer_of_check sampleEnvironment _ rfl (by decide) (by decide) (by decide)
      (by decide)
  obtain ⟨pair, hpair, hexpires⟩ := hissues Token.sampleSubject Token.steady []
    (by rw [haccess]; decide) (by rw [hrefresh]; decide)
  exact ⟨issuer, pair, hissuer, hsecret, hpair, hexpires⟩

/-- Development with an empty secret, which the checks let pass. -/
def emptiedSecret : Environment :=
  ofVariables [("JWT_SECRET", "")]

/-- Minutes that no lifetime has, and hours that are over after the calendar. -/
def endlessAccess : Environment :=
  ofVariables [("SECURITY_ACCESS_TOKEN_EXPIRY_MINUTES", "153722867280913")]

def endlessRefresh : Environment :=
  ofVariables [("SECURITY_REFRESH_TOKEN_EXPIRY_HOURS", "2562047788015")]

/-- Settings that pass the checks may do without an issuer, or with one that
issues no pairs. -/
theorem check_leaves_gaps :
    ((ofEnvironment emptiedSecret).check = .ok () ∧
      (ofEnvironment emptiedSecret).security.issuer? =
        some (.error .noSecret)) ∧
    ((ofEnvironment endlessAccess).check = .ok () ∧
      (ofEnvironment endlessAccess).security.accessLifetime? = none) ∧
    ((ofEnvironment endlessRefresh).check = .ok () ∧
      ∃ issuer, (ofEnvironment endlessRefresh).security.issuer? =
          some (.ok issuer) ∧
        (Token.steady.carryOut (issuer.issuePair Token.sampleSubject) []).1 =
          none) := by
  refine ⟨⟨by decide, rfl⟩, ⟨by decide, by decide⟩, by decide, ?_⟩
  refine ⟨⟨"dpms-development-secret", .ofSeconds 3600,
    .ofSeconds 9223372036854000, by decide⟩, rfl, ?_⟩
  rw [Token.carryOut_issuePair]
  exact if_neg fun hboth => absurd hboth.2 (by decide)

end CivicRegistry.Settings
