import Mhvp.Sqldump.Parser

namespace Mhvp.Core.RequestIdentity

open Sqldump List

/-- `text.strip()` -/
def stripped (text : Text) : Text := Sqldump.strip isSpace text

inductive Version where
  | v4 | v6
  deriving DecidableEq

/-- `max_prefixlen` -/
def Version.bits : Version → ℕ
  | .v4 => 32
  | .v6 => 128

/-- An address without its scope, which no comparison with a network reads. -/
structure Address where
  version : Version
  value : ℕ
  deriving DecidableEq

structure Network where
  version : Version
  prefixLength : ℕ
  value : ℕ
  deriving DecidableEq

/-- `int(text)` of ASCII digits -/
def number (text : Text) : ℕ := text.foldl (fun total ch => total * 10 + (ch.toNat - '0'.toNat)) 0

/-- A leading zero is refused as `inet_pton` refuses it. -/
def parseOctet (text : Text) : Option ℕ :=
  if text = [] ∨ text.all Char.isDigit = false ∨ 3 < text.length then none
  else if text ≠ ['0'] ∧ text.head? = some '0' then none
  else if 255 < number text then none
  else some (number text)

def ipv4Address (text : Text) : Option ℕ :=
  let octets := text.splitOn '.'
  if '/' ∈ text ∨ octets.length ≠ 4 then none
  else (octets.mapM parseOctet).map fun values => values.foldl (fun address octet => address * 256 + octet) 0

def hexDigit (ch : Char) : Option ℕ :=
  if ch.isDigit then some (ch.toNat - '0'.toNat)
  else if 'a' ≤ ch ∧ ch ≤ 'f' then some (ch.toNat - 'a'.toNat + 10)
  else if 'A' ≤ ch ∧ ch ≤ 'F' then some (ch.toNat - 'A'.toNat + 10)
  else none

def parseHextet (text : Text) : Option ℕ :=
  if text = [] ∨ 4 < text.length then none
  else (text.mapM hexDigit).map fun digits => digits.foldl (fun value digit => value * 16 + digit) 0

def parseHextets (parts : List Text) : Option ℕ :=
  (parts.mapM parseHextet).map fun values => values.foldl (fun address hextet => address * 65536 + hextet) 0

/-- The groups between the colons; a last group in dotted form stands for two. -/
def hextetParts (text : Text) : Option (List Text) :=
  let parts := text.splitOn ':'
  let last := parts.getLastD []
  if parts.length < 3 then none
  else if '.' ∈ last then
    (ipv4Address last).map fun value =>
      parts.dropLast ++ [Nat.toDigits 16 (value / 65536), Nat.toDigits 16 (value % 65536)]
  else some parts

/-- `_ip_int_from_string`: an empty group inside is the one run of zeroes that was left out. -/
def groupsValue (parts : List Text) : Option ℕ :=
  let inner := (List.range (parts.length - 1)).tail
  match inner.filter fun index => parts[index]? = some [] with
  | [] => if parts.length = 8 then parseHextets parts else none
  | [skip] =>
    let upper := parts.take skip
    let lower := parts.drop (skip + 1)
    -- An empty group at an end belongs to the run.
    let high := if upper.head? = some [] then upper.tail else upper
    let low := if lower.getLast? = some [] then lower.dropLast else lower
    if upper.head? = some [] ∧ high ≠ [] ∨ lower.getLast? = some [] ∧ low ≠ [] then none
    else if 8 ≤ high.length + low.length then none
    else do
      let front ← parseHextets high
      let back ← parseHextets low
      pure (front * 65536 ^ (8 - high.length) + back)
  | _ => none

def ipv6Address (text : Text) : Option ℕ :=
  let address := text.takeWhile (· ≠ '%')
  let scopeId := text.dropWhile (· ≠ '%')
  if '/' ∈ text ∨ scopeId = ['%'] ∨ '%' ∈ scopeId.tail then none
  else match hextetParts address with
    | some parts => if 9 < parts.length then none else groupsValue parts
    | none => none

def ipAddress (text : Text) : Option Address :=
  match ipv4Address text with
  | some value => some ⟨.v4, value⟩
  | none => (ipv6Address text).map fun value => ⟨.v6, value⟩

def prefixFromString (version : Version) (text : Text) : Option ℕ :=
  if text = [] ∨ text.all Char.isDigit = false ∨ version.bits < number text then none else some (number text)

/-- A netmask or a hostmask in dotted form. -/
def prefixFromMask (text : Text) : Option ℕ :=
  let isMask (value length : ℕ) : Bool := value = 2 ^ 32 - 2 ^ (32 - length)
  match ipv4Address text with
  | none => none
  | some value =>
    match (List.range 33).find? (isMask value) with
    | some length => some length
    | none => (List.range 33).find? (isMask (2 ^ 32 - 1 - value))

/-- The bits of the network, `value & netmask`. -/
def masked (version : Version) (length value : ℕ) : ℕ :=
  value / 2 ^ (version.bits - length) * 2 ^ (version.bits - length)

def ipv4Network (address : Text) (mask : Option Text) : Option Network := do
  let value ← ipv4Address address
  let length ← match mask with
    | some text => (prefixFromString .v4 text).or (prefixFromMask text)
    | none => some Version.v4.bits
  pure ⟨.v4, length, masked .v4 length value⟩

def ipv6Network (address : Text) (mask : Option Text) : Option Network := do
  let value ← ipv6Address address
  let length ← match mask with
    | some text => prefixFromString .v6 text
    | none => some Version.v6.bits
  pure ⟨.v6, length, masked .v6 length value⟩

/-- `ip_network(text, strict=False)` -/
def ipNetwork (text : Text) : Option Network :=
  match text.splitOn '/' with
  | [address] => (ipv4Network address none).or (ipv6Network address none)
  | [address, mask] => (ipv4Network address (some mask)).or (ipv6Network address (some mask))
  | _ => none

/-- `ip in network` -/
def Network.contains (network : Network) (ip : Address) : Bool :=
  ip.version = network.version && masked network.version network.prefixLength ip.value = network.value

example : (ipNetwork "10.20.0.0/255.255.0.0".toList).map (·.prefixLength) = some 16 := by decide +kernel

example : ipAddress "::ffff:10.0.0.1".toList = some ⟨.v6, 0xffff0a000001⟩ := by decide +kernel

example : ipAddress "10.0.0.01".toList = none := by decide +kernel

abbrev Header := Text × Text

def forwardedFor : Text := "x-forwarded-for".toList

/-- What the server hands over: header lines in their order, decoded, and the peer of the connection. -/
structure Scope where
  headers : List Header
  client : Option (Text × ℕ)

/-- The first line of this name. -/
def header (scope : Scope) (name : Text) : Option Text :=
  (scope.headers.find? fun line => line.1 = name).map fun line => line.2

def inNetworks (address : Text) (networks : List Network) : Bool :=
  match ipAddress address with
  | none => false
  | some ip => networks.any fun network => network.contains ip

def parseNetworks (entries : List Text) : List Network :=
  entries.filterMap fun entry => ipNetwork (stripped entry)

/-- `[h.strip() for h in forwarded.split(",") if h.strip()]` -/
def hopsOf (forwarded : Text) : List Text :=
  ((forwarded.splitOn ',').map stripped).filter fun hop => hop ≠ []

def unknown : Text := "unknown".toList

def clientIp (scope : Scope) (trustForwardedFor : Bool) (trustedProxies : List Text) : Text :=
  let networks := parseNetworks trustedProxies
  let client := (scope.client.map fun peer => peer.1).getD []
  let forwarded := (header scope forwardedFor).getD []
  if networks ≠ [] then
    let fallback := if client = [] then unknown else client
    if client ≠ [] ∧ inNetworks client networks then
      match (hopsOf forwarded).reverse.find? fun hop => !inNetworks hop networks with
      | some hop => hop.take 64
      | none => fallback
    else fallback
  else
    let first := stripped (forwarded.takeWhile (· ≠ ','))
    if trustForwardedFor ∧ first ≠ [] then first
    else match scope.client with
      | some peer => peer.1
      | none => unknown

/-- The trust settings; every entry of the list is a network. -/
structure Settings where
  rateLimitTrustForwardedFor : Bool
  rateLimitTrustedProxies : List Text
  trusted_proxies_valid : ∀ entry ∈ rateLimitTrustedProxies, (ipNetwork (stripped entry)).isSome

def settingsClientIp (scope : Scope) (settings : Settings) : Text :=
  clientIp scope settings.rateLimitTrustForwardedFor settings.rateLimitTrustedProxies

section Hops
variable {networks : List Network} {scope : Scope}

/-- The values of all `X-Forwarded-For` lines. -/
def Scope.forwarded (scope : Scope) : List Text :=
  (scope.headers.filter fun line => line.1 = forwardedFor).map fun line => line.2

def Scope.others (scope : Scope) : List Header := scope.headers.filter fun line => line.1 ≠ forwardedFor

theorem header_forwarded (scope : Scope) : header scope forwardedFor = scope.forwarded.head? := by
  rw [header, Scope.forwarded, List.head?_map, List.head?_filter]

theorem hopsOf_append (left right : Text) : hopsOf (left ++ ',' :: right) = hopsOf left ++ hopsOf right := by
  rw [hopsOf, splitOn_append_cons_self, map_append, filter_append]
  rfl

/-- The last hop that is no trusted proxy. -/
def lastUntrusted (networks : List Network) (hops : List Text) : Option Text :=
  hops.reverse.find? fun hop => !inNetworks hop networks

theorem lastUntrusted_append (left right : List Text) : lastUntrusted networks (left ++ right) =
    (lastUntrusted networks right).or (lastUntrusted networks left) := by
  rw [lastUntrusted, reverse_append, List.find?_append]
  rfl

theorem lastUntrusted_none (trusted : ∀ hop ∈ hops, inNetworks hop networks = true) :
    lastUntrusted networks hops = none := by
  apply List.find?_eq_none.mpr
  intro hop member
  simp [trusted hop (mem_reverse.mp member)]

theorem lastUntrusted_some (member : hop ∈ hops)
    (untrusted : inNetworks hop networks = false) : (lastUntrusted networks hops).isSome := by
  apply List.find?_isSome.mpr
  exact ⟨hop, mem_reverse.mpr member, by simp [untrusted]⟩

section

variable (given : parseNetworks trustedProxies ≠ []) (isPeer : scope.client.map (fun client => client.1) = some peer)
  (named : peer ≠ [])
include given isPeer named

theorem clientIp_trusted (trusted : inNetworks peer (parseNetworks trustedProxies) = true) :
    clientIp scope trustForwardedFor trustedProxies =
      ((lastUntrusted (parseNetworks trustedProxies) (hopsOf (scope.forwarded.head?.getD []))).map
        fun hop => hop.take 64).getD peer := by
  simp only [clientIp, given, isPeer, Option.getD_some, named, trusted, header_forwarded, ne_eq, not_false_eq_true,
    and_self, if_true, if_false]
  change (match lastUntrusted (parseNetworks trustedProxies) (hopsOf (scope.forwarded.head?.getD [])) with
    | some hop => hop.take 64
    | none => peer) = _
  cases lastUntrusted (parseNetworks trustedProxies) (hopsOf (scope.forwarded.head?.getD [])) with
  | none => rfl
  | some hop => rfl

theorem clientIp_untrusted (untrusted : inNetworks peer (parseNetworks trustedProxies) = false) :
    clientIp scope trustForwardedFor trustedProxies = peer := by
  simp [clientIp, given, isPeer, named, untrusted]

end

end Hops

def Settings.networks (settings : Settings) : List Network := parseNetworks settings.rateLimitTrustedProxies

theorem Settings.networks_ne (settings : Settings) (given : settings.rateLimitTrustedProxies ≠ []) :
    settings.networks ≠ [] := by
  cases entries : settings.rateLimitTrustedProxies with
  | nil => exact absurd entries given
  | cons entry rest =>
    have valid := settings.trusted_proxies_valid entry (by rw [entries]; exact mem_cons_self)
    obtain ⟨network, isNetwork⟩ := Option.isSome_iff_exists.mp valid
    have read : settings.networks = network :: parseNetworks rest := by
      rw [Settings.networks, entries]
      exact filterMap_cons_some isNetwork
    rw [read]
    exact cons_ne_nil _ _

/-- Where a proxy leaves what the client sent: in front of its own entry in one line, or in lines of its own. -/
inductive Placement where
  | sameLine | separateLines
  deriving DecidableEq

/-- The way of a request to the server: the peer, the entries that the proxies wrote, and the other headers. -/
structure Route where
  peer : Text
  peer_named : peer ≠ []
  placement : Placement
  appended : Text
  others : List Header
  others_named : ∀ line ∈ others, line.1 ≠ forwardedFor

def Route.lines (route : Route) (sent : List Text) : List Text :=
  match route.placement with
  | .sameLine => [sent.foldr (fun value rest => value ++ ',' :: rest) route.appended]
  | .separateLines => sent ++ [route.appended]

/-- The request arrives over this route when the client sent these values of `X-Forwarded-For`. -/
structure Route.Delivers (route : Route) (sent : List Text) (scope : Scope) : Prop where
  peer : scope.client.map (fun client => client.1) = some route.peer
  others : scope.others = route.others
  forwarded : scope.forwarded = route.lines sent

def Route.Trusted (route : Route) (settings : Settings) : Prop := inNetworks route.peer settings.networks = true

def Route.Noninterfering (route : Route) (settings : Settings) : Prop :=
  ∀ sent sent' scope scope', route.Delivers sent scope → route.Delivers sent' scope' →
    settingsClientIp scope settings = settingsClientIp scope' settings

/-- From a trusted peer the client has no influence on its address; an untrusted peer is the address. -/
def TrustBoundary (settings : Settings) (route : Route) : Prop :=
  (route.Trusted settings → route.Noninterfering settings) ∧
    (¬ route.Trusted settings → ∀ sent scope, route.Delivers sent scope → settingsClientIp scope settings = route.peer)

/-- A scope that arrives over the route. -/
def Route.scope (route : Route) (sent : List Text) : Scope :=
  ⟨route.others ++ (route.lines sent).map fun value => (forwardedFor, value), some (route.peer, 0)⟩

theorem Route.delivers (route : Route) (sent : List Text) : route.Delivers sent (route.scope sent) where
  peer := rfl
  others := by
    rw [Scope.others, Route.scope, filter_append, filter_eq_self.mpr, filter_eq_nil_iff.mpr,
      append_nil]
    · intro line member
      obtain ⟨value, _, rfl⟩ := mem_map.mp member
      simp
    · intro line member
      simpa using route.others_named line member
  forwarded := by
    rw [Scope.forwarded, Route.scope, filter_append, filter_eq_nil_iff.mpr, filter_eq_self.mpr,
      nil_append, map_map]
    · exact map_id _
    · intro line member
      obtain ⟨value, _, rfl⟩ := mem_map.mp member
      simp
    · intro line member
      simpa using route.others_named line member

section Boundary
variable {settings : Settings} {route : Route}

theorem hopsOf_line (sent : List Text) (appended : Text) :
    hopsOf (sent.foldr (fun value rest => value ++ ',' :: rest) appended) =
      sent.flatMap hopsOf ++ hopsOf appended := by
  induction sent with
  | nil => rfl
  | cons value rest ih => rw [foldr_cons, hopsOf_append, ih, flatMap_cons, append_assoc]

theorem Route.Delivers.address {sent : List Text} {scope : Scope} (delivered : route.Delivers sent scope)
    (given : settings.rateLimitTrustedProxies ≠ []) (trusted : route.Trusted settings) :
    settingsClientIp scope settings =
      ((lastUntrusted settings.networks (hopsOf ((route.lines sent).head?.getD []))).map
        fun hop => hop.take 64).getD route.peer := by
  rw [settingsClientIp, clientIp_trusted (settings.networks_ne given) delivered.peer route.peer_named trusted,
    delivered.forwarded]
  rfl

theorem noninterfering_of_appended (given : settings.rateLimitTrustedProxies ≠ []) (trusted : route.Trusted settings)
    (sameLine : route.placement = .sameLine) (member : hop ∈ hopsOf route.appended)
    (untrusted : inNetworks hop settings.networks = false) : route.Noninterfering settings := by
  have decided (sent : List Text) : lastUntrusted settings.networks (hopsOf ((route.lines sent).head?.getD [])) =
      lastUntrusted settings.networks (hopsOf route.appended) := by
    obtain ⟨last, isLast⟩ := Option.isSome_iff_exists.mp (lastUntrusted_some member untrusted)
    rw [Route.lines, sameLine]
    change lastUntrusted settings.networks (hopsOf (sent.foldr _ route.appended)) = _
    rw [hopsOf_line, lastUntrusted_append, isLast]
    rfl
  intro sent sent' scope scope' delivered delivered'
  rw [delivered.address given trusted, delivered'.address given trusted, decided sent, decided sent']

theorem word_untrusted (networks : List Network) (word : Text) (bad : ipAddress word = none) :
    inNetworks word networks = false := by
  rw [inNetworks, bad]

theorem word_decides (otherwise : ¬ (route.placement = .sameLine ∧
      ∃ hop ∈ hopsOf route.appended, inNetworks hop settings.networks = false))
    (single : hopsOf word = [word]) (bad : ipAddress word = none) :
    lastUntrusted settings.networks (hopsOf ((route.lines [word]).head?.getD [])) = some word := by
  have found : lastUntrusted settings.networks [word] = some word := by
    simp [lastUntrusted, word_untrusted settings.networks word bad]
  cases placed : route.placement with
  | separateLines =>
    rw [Route.lines, placed]
    change lastUntrusted settings.networks (hopsOf word) = _
    rw [single, found]
  | sameLine =>
    have trusted : ∀ hop ∈ hopsOf route.appended, inNetworks hop settings.networks = true := by
      intro hop member
      by_contra untrusted
      exact otherwise ⟨placed, hop, member, by simpa using untrusted⟩
    rw [Route.lines, placed]
    change lastUntrusted settings.networks (hopsOf (word ++ ',' :: route.appended)) = _
    rw [hopsOf_append, lastUntrusted_append, lastUntrusted_none trusted, single, found]
    rfl

theorem trust_boundary_iff (given : settings.rateLimitTrustedProxies ≠ []) :
    TrustBoundary settings route ↔ (route.Trusted settings → route.placement = .sameLine ∧
      ∃ hop ∈ hopsOf route.appended, inNetworks hop settings.networks = false) := by
  constructor
  · intro boundary trusted
    by_contra otherwise
    have same := boundary.1 trusted ["a".toList] ["b".toList] _ _ (route.delivers _) (route.delivers _)
    rw [(route.delivers _).address given trusted, (route.delivers _).address given trusted,
      word_decides otherwise (by decide +kernel) (by decide +kernel),
      word_decides otherwise (by decide +kernel) (by decide +kernel)] at same
    have letters : "a".toList.take 64 = "b".toList.take 64 := same
    exact absurd letters (by decide)
  · intro decided
    constructor
    · intro trusted
      obtain ⟨sameLine, hop, member, untrusted⟩ := decided trusted
      exact noninterfering_of_appended given trusted sameLine member untrusted
    · intro untrusted sent scope delivered
      have outside : inNetworks route.peer settings.networks = false := Bool.eq_false_iff.mpr untrusted
      exact clientIp_untrusted (settings.networks_ne given) delivered.peer route.peer_named outside

end Boundary

def proxySettings : Settings where
  rateLimitTrustForwardedFor := false
  rateLimitTrustedProxies := ["10.0.0.0/8".toList]
  trusted_proxies_valid := by decide +kernel

def proxyRoute (placement : Placement) : Route where
  peer := "10.1.2.3".toList
  peer_named := by decide
  placement := placement
  appended := " 198.51.100.7, 10.0.0.5".toList
  others := [("host".toList, "crm".toList)]
  others_named := by decide +kernel

theorem proxy_route_boundary : TrustBoundary proxySettings (proxyRoute .sameLine) :=
  (trust_boundary_iff (by decide)).mpr fun _ => ⟨rfl, "198.51.100.7".toList, by decide +kernel, by decide +kernel⟩

theorem spoofed_line : ¬ ∀ settings route, settings.rateLimitTrustedProxies ≠ [] → TrustBoundary settings route := by
  intro always
  have trusted : (proxyRoute .separateLines).Trusted proxySettings := by
    unfold Route.Trusted
    decide +kernel
  have same := (always proxySettings (proxyRoute .separateLines) (by decide)).1 trusted ["1.1.1.1".toList]
    ["2.2.2.2".toList] _ _ (Route.delivers _ _) (Route.delivers _ _)
  exact absurd same (by decide +kernel)

end Mhvp.Core.RequestIdentity
