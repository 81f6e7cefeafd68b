/-
Where the endpoints of services lie. An endpoint that is made of a protocol, a service and a region
is read back as an address of the domain of all services, unless the region holds a mark that
divides addresses.
-/

import SignedRest.Proofs.Client.Address
import SignedRest.Proofs.Client.Frame
import SignedRest.Proofs.Text.Blank
import SignedRest.Proofs.Url.Authority

namespace SignedRest

namespace Service

variable (service : Service) (config : Config)

/-! ### The text of an endpoint -/

/-- What stands between the service and the domain in the text of an endpoint. -/
def regionPart : List Char :=
  if service.isRegional then '.' :: config.region.toList else []

/-- The text of an endpoint behind its scheme. -/
def placeText : List Char :=
  service.id.text.toList ++ service.regionPart config ++ '.' :: domain.toList

theorem endpointText_eq (derived : config.endpoint = none) :
    (service.endpointText config).toList =
      config.protocol.scheme.toList ++ ':' :: '/' :: '/' :: service.placeText config := by
  unfold endpointText placeText regionPart
  rw [derived]
  cases service.isRegional with
  | true => simp
  | false => simp

theorem id_cases : ∃ c label, service.id.text.toList = c :: label ∧ c.isLower = true ∧
    Domain.IsSmallName (c :: label) ∧ '.' ∉ c :: label := by
  have valid := service.id.valid
  unfold isServiceId at valid
  split at valid
  · cases valid
  · rename_i c label same
    rw [Bool.and_eq_true] at valid
    have worded : ∀ other ∈ c :: label, (other.isLower || other.isDigit) = true := by
      intro other member
      rcases List.mem_cons.mp member with first | later
      · rw [first, valid.1, Bool.true_or]
      · exact List.all_eq_true.mp valid.2 other later
    refine ⟨c, label, same, valid.1, ?_, ?_⟩
    · intro other member
      rw [Domain.isSmall, worded other member, Bool.true_or]
    · intro dot
      exact absurd (worded '.' dot) (by decide)

theorem domain_small : Domain.IsSmallName domain.toList :=
  List.all_eq_true.mp (by decide)

theorem scheme?_protocol (protocol : Protocol) (rest : List Char) :
    Url.scheme? (protocol.scheme.toList ++ ':' :: rest) = some (protocol.scheme, rest) := by
  cases protocol with
  | http => rfl
  | https => rfl

theorem isSpecial_protocol (protocol : Protocol) : Url.isSpecial protocol.scheme = true := by
  cases protocol with
  | http => rfl
  | https => rfl

theorem withoutBreaks_small {name : List Char} (small : Domain.IsSmallName name) :
    Url.withoutBreaks name = name := by
  apply List.filter_eq_self.mpr
  intro c member
  have range := Domain.toNat_small (small c member)
  have notBreak : Url.isBreak c = false := by
    rw [← Bool.not_eq_true, Url.isBreak]
    intro breaks
    simp only [Bool.or_eq_true, decide_eq_true_eq] at breaks
    rcases breaks with (same | same) | same
    all_goals
      rw [same] at range
      exact absurd range (by decide)
  rw [notBreak]
  rfl

theorem withoutBreaks_endpointText (derived : config.endpoint = none) :
    Url.withoutBreaks (service.endpointText config).toList =
      config.protocol.scheme.toList ++ ':' :: '/' :: '/' ::
        Url.withoutBreaks (service.placeText config) := by
  rw [endpointText_eq service config derived]
  cases config.protocol with
  | http => rfl
  | https => rfl

theorem stripWhere_endpointText (derived : config.endpoint = none) :
    Text.stripWhere Url.isControlOrSpace (service.endpointText config).toList =
      (service.endpointText config).toList := by
  rw [endpointText_eq service config derived]
  apply Text.stripWhere_eq_self
  · intro item head
    cases protocol : config.protocol with
    | http =>
        rw [protocol] at head
        rw [← Option.some.inj head]
        decide
    | https =>
        rw [protocol] at head
        rw [← Option.some.inj head]
        decide
  · intro item ending
    have whole : config.protocol.scheme.toList ++ ':' :: '/' :: '/' :: service.placeText config =
        (config.protocol.scheme.toList ++ ':' :: '/' :: '/' :: service.id.text.toList ++
          service.regionPart config) ++ '.' :: domain.toList := by
      simp [placeText]
    rw [whole, List.getLast?_append_of_ne_nil _ (List.cons_ne_nil _ _)] at ending
    rw [← Option.some.inj ending]
    decide

theorem withoutBreaks_placeText :
    Url.withoutBreaks (service.placeText config) =
      service.id.text.toList ++ (Url.withoutBreaks (service.regionPart config) ++
        '.' :: domain.toList) := by
  obtain ⟨c, label, same, _, small, _⟩ := service.id_cases
  rw [placeText, Url.withoutBreaks, List.filter_append, List.filter_append, List.append_assoc]
  change Url.withoutBreaks service.id.text.toList ++
    (Url.withoutBreaks (service.regionPart config) ++ _) = _
  rw [withoutBreaks_small (same ▸ small)]
  rfl

theorem dropWhile_slash_placeText :
    (Url.withoutBreaks (service.placeText config)).dropWhile Url.isSlash =
      Url.withoutBreaks (service.placeText config) := by
  obtain ⟨c, label, same, letter, _⟩ := service.id_cases
  have notSlash : ¬ Url.isSlash c = true := by
    intro slash
    rw [Url.isSlash, Bool.or_eq_true, decide_eq_true_eq, decide_eq_true_eq] at slash
    rcases slash with slash | slash
    · exact absurd (slash ▸ letter) (by decide)
    · exact absurd (slash ▸ letter) (by decide)
  rw [withoutBreaks_placeText, same, List.cons_append, List.dropWhile_cons_of_neg notSlash]

theorem ofText_endpointText (derived : config.endpoint = none) :
    Url.ofText (service.endpointText config) =
      Url.ofAuthority config.protocol.scheme (Url.withoutBreaks (service.placeText config)) := by
  have slashes : Url.ofScheme config.protocol.scheme
      ('/' :: '/' :: Url.withoutBreaks (service.placeText config)) =
      Url.ofAuthority config.protocol.scheme (Url.withoutBreaks (service.placeText config)) := by
    rw [Url.ofScheme, isSpecial_protocol, if_pos rfl, List.dropWhile_cons_of_pos (by decide),
      List.dropWhile_cons_of_pos (by decide), dropWhile_slash_placeText]
  rw [← slashes]
  unfold Url.ofText
  dsimp only
  rw [stripWhere_endpointText service config derived,
    withoutBreaks_endpointText service config derived, scheme?_protocol]
  cases config.protocol with
  | http => rfl
  | https => rfl

/-! ### Marks in a region -/

/-- None of the marks is in the region that the endpoint of the service is made of. -/
def Lacks (marks : List Char) : Prop :=
  service.isRegional = true → ∀ mark ∈ marks, mark ∉ config.region.toList

/-- The marks that move a part of an address. -/
def movingMarks : List Char := ['/', '\\', '?', '#', '@']

/-- A host of the service in the domain of all services. -/
structure Owns (host : String) : Prop where
  front : ∃ rest, host = service.id.text ++ "." ++ rest
  ending : ∃ front, host = front ++ "." ++ domain

/-- An address that names a host of the service and nothing else. -/
structure Confines (url : Url) : Prop where
  scheme : url.scheme = config.protocol.scheme
  host : ∃ host, url.hostText? = some host ∧ service.Owns host
  user : ∀ authority, url.authority = some authority →
    authority.username = "" ∧ authority.password = none
  port : url.port? = none
  query : url.query = none
  path : url.path.toText = "/"

/-- What a region leaves in its place, by the marks that it lacks. -/
structure Keeps (url : Url) : Prop where
  scheme : url.scheme = config.protocol.scheme
  user : service.Lacks config ['@'] → ∀ authority, url.authority = some authority →
    authority.username = "" ∧ authority.password = none
  front : service.Lacks config ['@'] → ∃ rest,
    url.hostText? = some (service.id.text ++ "." ++ rest)
  ending : service.Lacks config ['/', '\\', '?', '#'] → ∃ front,
    url.hostText? = some (front ++ "." ++ domain)
  port : service.Lacks config ['/', '\\', '?', '#'] → url.port? = none
  query : service.Lacks config ['?'] → url.query = none
  path : service.Lacks config ['/', '\\'] → url.path.toText = "/"

variable {service config}

theorem Lacks.mono {marks fewer : List Char} (lacks : service.Lacks config marks)
    (included : fewer ⊆ marks) : service.Lacks config fewer :=
  fun regional mark member => lacks regional mark (included member)

theorem Lacks.not_mem {marks : List Char} (lacks : service.Lacks config marks) {mark : Char}
    (named : mark ∈ marks) (refused : Domain.isSmall mark = false) :
    mark ∉ Url.withoutBreaks (service.placeText config) := by
  have unlike : ∀ {name : List Char}, Domain.IsSmallName name → mark ∉ name := by
    intro name small member
    rw [small mark member] at refused
    cases refused
  have dotless : mark ≠ '.' := by
    rintro rfl
    exact absurd refused (by decide)
  obtain ⟨c, label, same, _, small, _⟩ := service.id_cases
  intro member
  rw [withoutBreaks_placeText, same] at member
  rcases List.mem_append.mp member with inId | member
  · exact unlike small inId
  · rcases List.mem_append.mp member with inRegion | inDomain
    · replace inRegion := (List.mem_filter.mp inRegion).1
      unfold regionPart at inRegion
      split at inRegion
      · rename_i regional
        exact lacks regional mark named (List.mem_of_ne_of_mem dotless inRegion)
      · cases inRegion
    · exact unlike domain_small (List.mem_of_ne_of_mem dotless inDomain)

variable (service config) in
theorem exists_place_front :
    ∃ rest, Url.withoutBreaks (service.placeText config) =
      service.id.text.toList ++ '.' :: rest := by
  rw [withoutBreaks_placeText, regionPart]
  split
  · exact ⟨_, rfl⟩
  · exact ⟨_, rfl⟩

variable (service config) in
theorem exists_place_ending :
    ∃ front, Url.withoutBreaks (service.placeText config) = front ++ '.' :: domain.toList := by
  rw [withoutBreaks_placeText, ← List.append_assoc]
  exact ⟨_, rfl⟩

theorem dotted_ne_empty (left right : String) : left ++ "." ++ right ≠ "" := by
  intro empty
  have chars := congrArg String.toList empty
  simp at chars

theorem hostText?_of_named {url : Url} {authority : Url.Authority} {name : String}
    (placed : url.authority = some authority) (named : authority.host = .name name)
    (filled : name ≠ "") : url.hostText? = some name := by
  rw [Url.hostText?, placed]
  dsimp only [Option.bind_eq_bind, Option.bind_some]
  rw [named]
  exact if_neg (mt String.isEmpty_iff.mp filled)

theorem ofText_of_endpoint {url : Url} (found : service.endpoint config = .ok url) :
    Url.ofText (service.endpointText config) = .ok url := by
  unfold endpoint readEndpoint at found
  split at found
  · cases found
  · rename_i other read
    split at found
    · cases found
    · split at found
      · cases found
      · rw [read, Except.ok.inj found]

section Placed

variable {authority : Url.Authority} {after : List Char}
  (placed : Url.readAuthority config.protocol.scheme
    (Url.withoutBreaks (service.placeText config)) = .ok (authority, after))

include placed

theorem host_front (lacks : service.Lacks config ['@']) :
    ∃ rest, authority.host = .name (service.id.text ++ "." ++ rest) := by
  have clear : '@' ∉ Url.withoutBreaks (service.placeText config) :=
    lacks.not_mem List.mem_cons_self (by decide)
  obtain ⟨c, label, same, letter, small, dotless⟩ := service.id_cases
  obtain ⟨rest, divided⟩ := exists_place_front service config
  rw [same] at divided
  rw [divided] at placed clear
  obtain ⟨last, named⟩ :=
    Url.host_front (isSpecial_protocol _) letter small dotless clear placed
  refine ⟨String.ofList last, named.trans (congrArg Url.Host.name ?_)⟩
  apply String.toList_inj.mp
  simp [same]

theorem host_ending (lacks : service.Lacks config ['/', '\\', '?', '#']) :
    authority.port = none ∧ ∃ front, authority.host = .name (front ++ "." ++ domain) := by
  obtain ⟨front, divided⟩ := exists_place_ending service config
  have whole : ∀ c ∈ Url.withoutBreaks (service.placeText config),
      Url.endsAuthority true c = false := by
    intro c member
    rw [← Bool.not_eq_true]
    intro ends
    have marks : c ∈ ['/', '\\', '?', '#'] ∧ Domain.isSmall c = false := by
      simp only [Url.endsAuthority, Bool.true_and, Bool.or_eq_true, decide_eq_true_eq] at ends
      rcases ends with ((same | same) | same) | same
      all_goals
        rw [same]
        decide
    exact lacks.not_mem marks.1 marks.2 member
  rw [divided] at placed whole
  obtain ⟨portless, first, named⟩ :=
    Url.host_back (isSpecial_protocol _) domain_small (by decide) (by decide) whole placed
  refine ⟨portless, String.ofList first, named.trans (congrArg Url.Host.name ?_)⟩
  apply String.toList_inj.mp
  simp

end Placed

theorem endpoint_keeps (derived : config.endpoint = none) {url : Url}
    (found : service.endpoint config = .ok url) : service.Keeps config url := by
  have special := isSpecial_protocol config.protocol
  have read := ofText_of_endpoint found
  rw [ofText_endpointText service config derived] at read
  obtain ⟨authority, after, placed, rfl⟩ := Url.ofAuthority_special special read
  refine
    { scheme := rfl
      user := ?_
      front := ?_
      ending := ?_
      port := fun lacks => (host_ending placed lacks).1
      query := ?_
      path := ?_ }
  · intro lacks other same
    rw [← Option.some.inj same]
    exact Url.user_of_clear special placed (lacks.not_mem List.mem_cons_self (by decide))
  · intro lacks
    obtain ⟨rest, named⟩ := host_front placed lacks
    exact ⟨rest, hostText?_of_named rfl named (dotted_ne_empty service.id.text rest)⟩
  · intro lacks
    obtain ⟨_, front, named⟩ := host_ending placed lacks
    exact ⟨front, hostText?_of_named rfl named (dotted_ne_empty front domain)⟩
  · intro lacks
    apply Url.tail_of_clear
    intro member
    exact lacks.not_mem List.mem_cons_self (by decide)
      (Url.after_subset special placed ((List.dropWhile_suffix _).subset member))
  · intro lacks
    dsimp only
    rw [Url.pathText_of_clear special placed (lacks.not_mem (by decide) (by decide))
      (lacks.not_mem (by decide) (by decide))]
    rfl

theorem Keeps.confines {url : Url} (keeps : service.Keeps config url)
    (lacks : service.Lacks config movingMarks) : service.Confines config url := by
  obtain ⟨rest, front⟩ := keeps.front (lacks.mono (by decide))
  obtain ⟨first, ending⟩ := keeps.ending (lacks.mono (by decide))
  exact
    { scheme := keeps.scheme
      host := ⟨_, front, ⟨rest, rfl⟩, first, Option.some.inj (front.symm.trans ending)⟩
      user := keeps.user (lacks.mono (by decide))
      port := keeps.port (lacks.mono (by decide))
      query := keeps.query (lacks.mono (by decide))
      path := keeps.path (lacks.mono (by decide)) }

/-! ### Clients of the service -/

theorem endpoint_of_make {made : Client} (makes : Client.make service config = .ok made) :
    service.endpoint config = .ok made.endpoint ∧ made.signer = Signer.standard := by
  obtain ⟨credentials, _required, makes⟩ := Result.ok_of_bind makes
  obtain ⟨endpoint, found, makes⟩ := Result.ok_of_bind makes
  cases makes
  exact ⟨found, rfl⟩

theorem hostHeader_of_portless {uri : Url} {host : String} (named : uri.hostText? = some host)
    (portless : uri.port? = none) : Signing.hostHeader uri = .ok host := by
  rw [Signing.hostHeader, named, portless]

/-- A request below the endpoint is signed for the host of the endpoint and goes there. -/
theorem Confines.sent {client : Client} (confines : service.Confines config client.endpoint)
    (standard : client.signer = Signer.standard) {Value : Type} (decode : Json → Option Value)
    (default : Value) (transport : Transport) (clock : Clock) {method : String}
    {path : List String} {request : Request}
    (below : request.uri = (Client.requestBelow client.endpoint method path).uri) :
    ∃ host, service.Owns host ∧
      ∀ sent ∈ (client.invoke decode default transport clock request).sent,
        sent.uri.hostText? = some host ∧ sent.header? Header.host = some host := by
  obtain ⟨host, named, owned⟩ := confines.host
  have placed : request.uri.hostText? = some host := by
    rw [below]
    exact named
  have portless : request.uri.port? = none := by
    rw [below]
    exact confines.port
  have signs := Client.outgoing_of_host standard clock (hostHeader_of_portless placed portless)
  refine ⟨host, owned, ?_⟩
  intro sent member
  rw [Client.invoke_sent_of_signed client decode default clock request transport signs,
    List.mem_singleton] at member
  rw [member, Signing.signedFor_uri, Client.prepare_uri]
  exact ⟨placed, Signing.signedFor_header?_host _ _ _ _ _⟩

theorem endpoint_within_domain (service : Service) (config : Config)
    (derived : config.endpoint = none) :
    (∀ url, service.endpoint config = .ok url → service.Keeps config url) ∧
      (service.Lacks config movingMarks →
        (∀ url, service.endpoint config = .ok url → service.Confines config url) ∧
        ∀ made, Client.make service config = .ok made → ∀ options handlers,
          let client := { made with options, handlers }
          ∀ (method : String) (path : List String), ∃ created,
            client.createRequest method path = .ok created ∧
            ∀ request : Request, request.uri = created.uri →
              ∀ {Value : Type} (decode : Json → Option Value) (default : Value)
                (transport : Transport) (clock : Clock), ∃ host, service.Owns host ∧
                  ∀ sent ∈ (client.invoke decode default transport clock request).sent,
                    sent.uri.hostText? = some host ∧ sent.header? Header.host = some host) := by
  have confines : service.Lacks config movingMarks → ∀ url, service.endpoint config = .ok url →
      service.Confines config url :=
    fun lacks url found => (endpoint_keeps derived found).confines lacks
  refine ⟨fun url found => endpoint_keeps derived found, ?_⟩
  intro lacks
  refine ⟨confines lacks, ?_⟩
  intro made makes options handlers client method path
  obtain ⟨found, standard⟩ := endpoint_of_make makes
  have within : service.Confines config client.endpoint := confines lacks made.endpoint found
  have created := Client.createRequest_of_accepted (accepted_of_read found) method path
  refine ⟨_, created, ?_⟩
  intro request below Value decode default transport clock
  exact within.sent standard decode default transport clock below

/-- Escapes and capital letters of a region stay within its place. -/
theorem endpoint_within_domain_escaped :
    let service : Service := ⟨⟨"ses", by decide⟩, true⟩
    let config : Config := { region := "B%4A" }
    config.endpoint = none ∧ ∃ url, service.endpoint config = .ok url ∧
      url.hostText? = some "ses.bj.baidubce.com" ∧ service.Confines config url := by
  intro service config
  have lacks : service.Lacks config movingMarks := by
    intro _
    exact @of_decide_eq_true _ (List.decidableBAll _ _) (by decide)
  have found : (service.endpoint config).toOption = some
      ⟨"http", some ⟨"", none, .name "ses.bj.baidubce.com", none⟩, .segments [""], none, none⟩ := by
    decide +kernel
  replace found := Result.ok_of_toOption found
  exact ⟨rfl, _, found, rfl, ((endpoint_within_domain service config rfl).2 lacks).1 _ found⟩

/-- A slash in a region takes the endpoint out of the domain. -/
theorem endpoint_outside_domain :
    let service : Service := ⟨⟨"ses", by decide⟩, true⟩
    let config : Config := { region := "evil.com/" }
    config.endpoint = none ∧ ∃ url, service.endpoint config = .ok url ∧
      Signing.hostHeader url = .ok "ses.evil.com" ∧ url.path.toText = "/.baidubce.com" ∧
      ¬ service.Confines config url := by
  intro service config
  have found : (service.endpoint config).toOption = some
      ⟨"http", some ⟨"", none, .name "ses.evil.com", none⟩, .segments [".baidubce.com"], none,
        none⟩ := by
    decide +kernel
  replace found := Result.ok_of_toOption found
  refine ⟨rfl, _, found, rfl, rfl, ?_⟩
  intro confines
  exact absurd confines.path (by decide)

end Service

end SignedRest
