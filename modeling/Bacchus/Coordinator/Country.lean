import Bacchus.Geoip

/-!
# Where a node is

A coordinator derives the country of a node from the address it observes. What the node says is
used only where nothing was observed, and an operator's correction replaces the verdict.
-/

namespace Bacchus.Coordinator

structure UDPAddr where
  ip : Netip.Addr
  port : Nat
deriving DecidableEq

/-- Where a published country comes from. -/
inductive CountrySource where
  | unknown
  | observed
  | hinted
  | split
  | noEndpoint
  | override
deriving DecidableEq

/-- What is known of where a node is. -/
structure CountryClaims where
  derived : String := ""
  source : CountrySource := .unknown
  declared : String := ""
  displaced : CountrySource := .unknown
deriving DecidableEq

/-- What the derivation reads: the staged table, whether it is required, and the operator's
corrections. -/
structure Geo where
  lookupAddr : Netip.Addr → Option String
  required : Bool
  overrideFor : String → String

variable (geo : Geo)

def Geo.derivedCountry (src : UDPAddr) (hint : String) : CountryClaims :=
  let declared := Geoip.canonical hint
  let observed := ((geo.lookupAddr src.ip).map Geoip.canonical).getD ""
  if observed ≠ "" then { derived := observed, source := .observed, declared }
  else if geo.required = true ∨ declared = "" then { declared }
  else { derived := declared, source := .hinted, declared }

def Geo.applyCountryOverride (id : String) (claims : CountryClaims) : CountryClaims :=
  let correction := geo.overrideFor id
  if correction = "" then claims
  else { claims with derived := correction, source := .override, displaced := claims.source }

inductive EndpointVerdict where
  | agrees
  | disagrees
  | absent

/-- `exitEndpoint`. A name is never resolved, so it never agrees. -/
def exitEndpoint (advertised : String) (src : UDPAddr) : EndpointVerdict :=
  if advertised = "" then .absent
  else
    match Netip.parseAddr (Netip.trimSpace (Netip.hostOf advertised)) with
    | none => .disagrees
    | some addr =>
      -- `net.ParseIP` takes no zone, and `Equal` looks through a mapped address.
      if addr.zone = "" ∧ addr.unmap = src.ip.withoutZone.unmap then .agrees else .disagrees

def Geo.derivedExitCountry (src : UDPAddr) (hint advertised : String) : CountryClaims :=
  let claims := geo.derivedCountry src hint
  if claims.source ≠ .observed then claims
  else
    match exitEndpoint advertised src with
    | .agrees => claims
    | .absent =>
      if geo.required then { claims with derived := "", source := .noEndpoint } else claims
    | .disagrees =>
      if geo.required then { claims with derived := "", source := .split }
      else { claims with source := .split }

def Geo.deriveCountry (id : String) (src : UDPAddr) (hint : String) : CountryClaims :=
  geo.applyCountryOverride id (geo.derivedCountry src hint)

def Geo.deriveExitCountry (id : String) (src : UDPAddr) (hint advertised : String) :
    CountryClaims :=
  geo.applyCountryOverride id (geo.derivedExitCountry src hint advertised)

/-- `rederiveHint`: only a country the node itself named is offered again. -/
def rederiveHint (stored : CountryClaims) : String :=
  if stored.source = .hinted then stored.derived else ""

def Geo.rederiveCountry (id : String) (src : UDPAddr) (stored : CountryClaims) : CountryClaims :=
  { geo.deriveCountry id src (rederiveHint stored) with declared := stored.declared }

def Geo.rederiveExitCountry (id : String) (src : UDPAddr) (advertised : String)
    (stored : CountryClaims) : CountryClaims :=
  { geo.deriveExitCountry id src (rederiveHint stored) advertised with declared := stored.declared }

open Geoip

variable {geo : Geo}

/-- As it is loaded: every code was made canonical, and no correction was an odd letter. -/
structure Geo.Loaded (geo : Geo) : Prop where
  table : ∀ ip code, geo.lookupAddr ip = some code → ∃ raw, code = canonical raw
  corrections : ∀ id, ∃ raw, Plain raw ∧ geo.overrideFor id = canonical raw

structure CountryClaims.Formed (claims : CountryClaims) : Prop where
  derived : Geoip.Formed claims.derived
  declared : Geoip.Formed claims.declared

theorem Geo.Loaded.derivedCountry (loaded : geo.Loaded) (src : UDPAddr) {hint : String}
    (plain : Plain hint) : (geo.derivedCountry src hint).Formed := by
  have declared := formed_canonical plain
  have observed : Geoip.Formed (((geo.lookupAddr src.ip).map canonical).getD "") := by
    cases found : geo.lookupAddr src.ip with
    | none => exact .inl rfl
    | some =>
      obtain ⟨raw, same⟩ := loaded.table _ _ found
      rw [same, Option.map_some, Option.getD_some]
      exact formed_canonical_canonical raw
  unfold Geo.derivedCountry
  generalize canonical hint = tag at declared ⊢
  generalize ((geo.lookupAddr src.ip).map canonical).getD "" = seen at observed ⊢
  dsimp only
  split_ifs
  · exact ⟨observed, declared⟩
  · exact ⟨.inl rfl, declared⟩
  · exact ⟨declared, declared⟩

theorem Geo.Loaded.applyCountryOverride (loaded : geo.Loaded) (id : String) {claims : CountryClaims}
    (formed : claims.Formed) : (geo.applyCountryOverride id claims).Formed := by
  unfold Geo.applyCountryOverride
  dsimp only
  split_ifs
  · exact formed
  · obtain ⟨_, plain, same⟩ := loaded.corrections id
    have correct : Geoip.Formed (geo.overrideFor id) := same ▸ formed_canonical plain
    exact ⟨correct, formed.declared⟩

theorem Geo.Loaded.derivedExitCountry (loaded : geo.Loaded) (src : UDPAddr) {hint : String}
    (plain : Plain hint) (advertised : String) :
    (geo.derivedExitCountry src hint advertised).Formed := by
  have formed := loaded.derivedCountry src plain
  unfold Geo.derivedExitCountry
  dsimp only
  repeat' split
  all_goals
    first
    | exact ⟨formed.derived, formed.declared⟩
    | exact ⟨.inl rfl, formed.declared⟩

/-- A code and every tag derived from it are made canonical, unless it is one of two letters that
become a single capital. -/
theorem canonical_formed_iff (text : String) :
    (Geoip.Formed (canonical text) ∧ canonical (canonical text) = canonical text ∧
      ∀ geo : Geo, geo.Loaded → ∀ id src advertised,
        (geo.deriveCountry id src text).Formed ∧
          (geo.deriveExitCountry id src text advertised).Formed ∧
        ∀ stored : CountryClaims, stored.Formed → (geo.rederiveCountry id src stored).Formed ∧
          (geo.rederiveExitCountry id src advertised stored).Formed) ↔
      Plain text := by
  constructor
  · rintro ⟨formed, _⟩
    exact plain_of_formed_canonical formed
  · intro plain
    have formed := formed_canonical plain
    refine ⟨formed, canonical_of_formed formed, ?_⟩
    intro geo loaded id src advertised
    refine ⟨loaded.applyCountryOverride id (loaded.derivedCountry src plain),
      loaded.applyCountryOverride id (loaded.derivedExitCountry src plain advertised),
      fun stored formed => ?_⟩
    have again : Plain (rederiveHint stored) := by
      unfold rederiveHint
      split_ifs
      · exact plain_of_formed formed.derived
      · decide
    have relay := loaded.applyCountryOverride id (loaded.derivedCountry src again)
    have exit := loaded.applyCountryOverride id (loaded.derivedExitCountry src again advertised)
    exact ⟨⟨relay.derived, formed.declared⟩, exit.derived, formed.declared⟩

/-- A node says it is in a country of one letter, and is believed. -/
theorem dotless_i_is_a_country :
    ¬ Geoip.Formed (canonical "ı") ∧ canonical (canonical "ı") ≠ canonical "ı" ∧
      (Geo.deriveCountry ⟨fun _ => none, false, fun _ => ""⟩ "n1" ⟨.v4 0, 0⟩ "ı").derived =
        "I" := by
  decide

end Bacchus.Coordinator
