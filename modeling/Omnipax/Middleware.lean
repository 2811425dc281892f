import Mathlib.Data.List.DropRight
import Mathlib.Data.List.Infix

/-!
# Redirects of the middleware

The role table, the route guards, the shortcut for a login page that is not
needed and the rule for a missing tenant each send a request somewhere else.
A browser follows them with the same cookie, until it is answered.
-/

namespace Omnipax.Middleware

/-! ## Following -/

/-- Following `next?` comes to an end. -/
inductive Settles {α : Type} (next? : α → Option α) : α → Prop where
  | done {a : α} : next? a = none → Settles next? a
  | goes {a b : α} : next? a = some b → Settles next? b → Settles next? a

/-- What never leaves a set does not come to an end in it. -/
theorem not_settles {α : Type} {next? : α → Option α} {C : α → Prop}
    (hC : ∀ a, C a → ∃ b, next? a = some b ∧ C b) {a : α} (ha : C a) : ¬Settles next? a := by
  intro h
  induction h with
  | @done a hnone =>
      obtain ⟨b, hb, -⟩ := hC a ha
      cases hnone.symm.trans hb
  | goes hsome _ ih =>
      obtain ⟨c, hc, hCc⟩ := hC _ ha
      obtain rfl := Option.some.inj (hsome.symm.trans hc)
      exact ih hCc

/-! ## The middleware -/

abbrev Pathname := List Char

structure Url where
  pathname : Pathname
  searchParams : List (String × String)
deriving DecidableEq

structure Payload where
  sub : String
  role : String
  tenantId : Option String
  tenantSlug : Option String
deriving DecidableEq

/-- Tokens: the JSON of the middle one of three parts, and the payload of
`jwtVerify`, which is that JSON where the token is verified. -/
structure Jwt where
  parse : String → Option Payload
  verifyToken : String → Option Payload
  parse_of_verified : ∀ {token payload}, verifyToken token = some payload → parse token = some payload
  nonempty : verifyToken "" = none

def ROLE_REDIRECT : List (String × String) :=
  [("SUPER_ADMIN", "/super-admin"), ("ADMIN", "/admin"), ("THEATER_MANAGER", "/theatre"),
    ("USER", "/"), ("SCANNER_DEVICE", "/scanner")]

/-- The text of a function of the language, with its blanks and braces as a URL
has them. -/
def nativeFunction (name : String) : String := "function%20" ++ name ++ "()%20%7B%20[native%20code]%20%7D"

/-- The members of every object, as relative URLs. -/
def objectPrototype : List (String × String) :=
  ("constructor", nativeFunction "Object") :: ("__proto__", "[object%20Object]") ::
    ["__defineGetter__", "__defineSetter__", "hasOwnProperty", "__lookupGetter__", "__lookupSetter__",
      "isPrototypeOf", "propertyIsEnumerable", "toString", "valueOf", "toLocaleString"].map
        fun name => (name, nativeFunction name)

structure Guard where
  pathPrefix : String
  roles : List String
deriving DecidableEq

def ROUTE_GUARDS : List Guard :=
  [⟨"/super-admin", ["SUPER_ADMIN"]⟩, ⟨"/admin", ["ADMIN"]⟩, ⟨"/theatre", ["THEATER_MANAGER"]⟩,
    ⟨"/scanner", ["SCANNER_DEVICE"]⟩]

def PUBLIC_PATHS : List String := ["/login", "/signup", "/otp", "/_next", "/favicon", "/api"]

def startsWith (pathname : Pathname) (text : String) : Bool := text.toList.isPrefixOf pathname

def isPublic (pathname : Pathname) : Bool := PUBLIC_PATHS.any (startsWith pathname)

/-- `config.matcher`; what it leaves out is not redirected. -/
def isMatched (pathname : Pathname) : Bool :=
  match pathname with
  | '/' :: rest =>
      !(startsWith rest "_next/static" || startsWith rest "_next/image"
        || (startsWith rest "favicon" && startsWith (rest.drop 8) "ico")
        || [".svg", ".png", ".jpg", ".jpeg", ".gif", ".webp"].any fun e => e.toList.isSuffixOf rest)
  | _ => false

/-- The path up to its last slash. -/
def directory (pathname : Pathname) : Pathname := pathname.rdropWhile (· != '/')

/-- `new URL(text, request.url)` -/
def newUrl (text : String) (pathname : Pathname) : Url :=
  ⟨if text.toList.head? = some '/' then text.toList else directory pathname ++ text.toList, []⟩

inductive Response where
  | next (headers : List (String × String))
  | redirect (url : Url) (deletesToken : Bool)
  /-- A header does not take its value. -/
  | throws
deriving DecidableEq

structure Request where
  pathname : Pathname
  access_token : Option String
  /-- The `Authorization` header without its `Bearer `. -/
  authorization : Option String
deriving DecidableEq

def truthy? : Option String → Option String
  | some text => if text = "" then none else some text
  | none => none

def decodeJwtRole (J : Jwt) (token : String) : Option String := (J.parse token).map (·.role)

/-- `ROLE_REDIRECT[role]`, else the front page. -/
def portal (role : String) : String :=
  (((ROLE_REDIRECT ++ objectPrototype).lookup role).bind fun home => truthy? (some home)).getD "/"

/-- The login page, for who has logged in already. -/
def loginPage (J : Jwt) (request : Request) : Response :=
  match truthy? request.access_token with
  | none => .next []
  | some existingToken =>
      match truthy? (decodeJwtRole J existingToken) with
      | none => .next []
      | some role =>
          let home := ((ROLE_REDIRECT ++ objectPrototype).lookup role).getD "/"
          if (J.verifyToken existingToken).isSome && home != "/login" then
            .redirect (newUrl home request.pathname) false
          else .next []

/-- A text of bytes, and of one line but for its ends. -/
def isHeaderValue (text : String) : Bool :=
  let isBlank (c : Char) : Bool := c.toNat ∈ [9, 10, 13, 32]
  ((text.toList.dropWhile isBlank).rdropWhile isBlank).all fun c =>
    c.toNat < 256 && c.toNat ∉ [0, 10, 13]

/-- Headers for the server to render with. -/
def forward (payload : Payload) : Response :=
  let requestHeaders := [("x-user-role", payload.role)]
    ++ (truthy? payload.tenantId).toList.map (fun id => ("x-tenant-id", id))
    ++ (truthy? payload.tenantSlug).toList.map (fun slug => ("x-tenant-slug", slug))
    ++ if payload.role = "SUPER_ADMIN" then [("x-bypass-rls", "true")] else []
  if requestHeaders.all fun header => isHeaderValue header.2 then .next requestHeaders else .throws

def hasTenant (payload : Payload) : Bool :=
  (truthy? payload.tenantId).isSome || (truthy? payload.tenantSlug).isSome

/-- The first guard of the path decides. -/
def checkGuards (payload : Payload) (pathname : Pathname) : Response :=
  match ROUTE_GUARDS.find? fun guard => startsWith pathname guard.pathPrefix with
  | none => forward payload
  | some guard =>
      if guard.roles.contains payload.role then
        if payload.role == "ADMIN" && !hasTenant payload then
          .redirect ⟨"/login".toList, [("error", "no_tenant")]⟩ false
        else forward payload
      else .redirect (newUrl (portal payload.role) pathname) false

def middleware (J : Jwt) (request : Request) : Response :=
  if request.pathname = "/login".toList then loginPage J request
  else if isPublic request.pathname then .next []
  else match (truthy? request.access_token).or (truthy? request.authorization) with
    | none => .redirect ⟨"/login".toList, [("redirect", String.ofList request.pathname)]⟩ false
    | some token =>
        match J.verifyToken token with
        | none => .redirect ⟨"/login".toList, []⟩ true
        | some payload => checkGuards payload request.pathname

/-! ## A browser -/

def Response.location? : Response → Option Pathname
  | .redirect url _ => some url.pathname
  | _ => none

/-- Where a request of the path with the cookie is sent on to, if it is. Paths that the
matcher leaves out never reach the middleware. -/
def goes (J : Jwt) (token : String) (authorization : Option String) (pathname : Pathname) :
    Option Pathname :=
  if isMatched pathname then (middleware J ⟨pathname, some token, authorization⟩).location? else none

/-- A guard is on the path. -/
def guarded (pathname : Pathname) : Bool :=
  ROUTE_GUARDS.any fun guard => startsWith pathname guard.pathPrefix

/-- An administrator without a tenant, whose portal sends them to the login page
and the other way round; or a role that is no role but a member of every object,
taken for a path next to one that is guarded. -/
def Loops (payload : Payload) (pathname : Pathname) : Prop :=
  (payload.role = "ADMIN" ∧ hasTenant payload = false ∧
      (pathname = "/login".toList ∨ guarded pathname = true)) ∨
    (objectPrototype.any (·.1 == payload.role) = true ∧ guarded (directory pathname) = true)

instance (payload : Payload) (pathname : Pathname) : Decidable (Loops payload pathname) :=
  inferInstanceAs (Decidable (_ ∨ _))

/-! ## Paths -/

theorem startsWith_iff {pathname : Pathname} {text : String} :
    startsWith pathname text = true ↔ text.toList <+: pathname := List.isPrefixOf_iff_prefix

theorem guarded_iff {pathname : Pathname} :
    guarded pathname = true ↔ ∃ guard ∈ ROUTE_GUARDS, guard.pathPrefix.toList <+: pathname := by
  simp only [guarded, List.any_eq_true, startsWith_iff]

theorem guarded_append {pathname : Pathname} (h : guarded pathname = true) (rest : Pathname) :
    guarded (pathname ++ rest) = true := by
  obtain ⟨guard, hguard, hprefix⟩ := guarded_iff.mp h
  exact guarded_iff.mpr ⟨guard, hguard, hprefix.trans (List.prefix_append _ _)⟩

theorem guarded_cases {pathname : Pathname} (h : guarded pathname = true) :
    ∃ rest, pathname = "/super-admin".toList ++ rest ∨ pathname = "/admin".toList ++ rest ∨
      pathname = "/theatre".toList ++ rest ∨ pathname = "/scanner".toList ++ rest := by
  obtain ⟨guard, hguard, rest, rfl⟩ := guarded_iff.mp h
  refine ⟨rest, ?_⟩
  simp only [ROUTE_GUARDS, List.mem_cons, List.not_mem_nil, or_false] at hguard
  rcases hguard with rfl | rfl | rfl | rfl
  · exact Or.inl rfl
  · exact Or.inr (Or.inl rfl)
  · exact Or.inr (Or.inr (Or.inl rfl))
  · exact Or.inr (Or.inr (Or.inr rfl))

/-- A path with a guard is neither public nor the login page. -/
theorem guarded_private {pathname : Pathname} (h : guarded pathname = true) :
    isPublic pathname = false ∧ pathname ≠ "/login".toList := by
  have hpublic : isPublic pathname = false := by
    obtain ⟨rest, rfl | rfl | rfl | rfl⟩ := guarded_cases h <;> rfl
  refine ⟨hpublic, ?_⟩
  rintro rfl
  cases hpublic

theorem directory_append (pathname : Pathname) :
    ∃ rest, pathname = directory pathname ++ rest ∧ '/' ∉ rest := by
  refine ⟨_, (List.rdropWhile_append_rtakeWhile (p := (· != '/')) (l := pathname)).symm, ?_⟩
  intro hmem
  have hne := List.mem_rtakeWhile_imp hmem
  simp at hne

theorem directory_name (pathname : Pathname) {name : Pathname} (h : '/' ∉ name) :
    directory (directory pathname ++ name) = directory pathname := by
  induction name using List.reverseRecOn with
  | nil =>
      rw [List.append_nil]
      exact List.rdropWhile_idempotent _ _
  | append_singleton name c ih =>
      have hc : (c != '/') = true := bne_iff_ne.mpr fun heq => h (by simp [heq])
      rw [← List.append_assoc, directory, List.rdropWhile_concat_pos (· != '/') _ _ hc]
      exact ih fun hmem => h (List.mem_append_left _ hmem)

/-! ## Where a verified cookie goes -/

section Verified

variable {J : Jwt} {token : String} (authorization : Option String) {payload : Payload}
  {pathname : Pathname}

theorem truthy_token (h : J.verifyToken token = some payload) :
    truthy? (some token) = some token := by
  refine if_neg ?_
  rintro rfl
  cases J.nonempty.symm.trans h

/-- The homes in the tables: none is empty, and none the login page. -/
theorem home_ne {role home : String}
    (h : (ROLE_REDIRECT ++ objectPrototype).lookup role = some home) :
    home ≠ "" ∧ home ≠ "/login" := by
  have hall : ∀ e ∈ ROLE_REDIRECT ++ objectPrototype, e.2 ≠ "" ∧ e.2 ≠ "/login" := by decide
  obtain ⟨l, l', hl, -⟩ := List.lookup_eq_some_iff.mp h
  exact hall (role, home) (by rw [hl]; simp)

theorem portal_eq (role : String) :
    portal role = ((ROLE_REDIRECT ++ objectPrototype).lookup role).getD "/" := by
  rw [portal]
  cases h : (ROLE_REDIRECT ++ objectPrototype).lookup role with
  | none => rfl
  | some home =>
      rw [Option.bind_some, truthy?, if_neg (home_ne h).1]

theorem portal_ne_login (role : String) : portal role ≠ "/login" := by
  rw [portal_eq]
  cases h : (ROLE_REDIRECT ++ objectPrototype).lookup role with
  | none => decide
  | some home => exact (home_ne h).2

theorem goes_login (h : J.verifyToken token = some payload) :
    goes J token authorization "/login".toList
      = if payload.role = "" then none
        else some (newUrl (portal payload.role) "/login".toList).pathname := by
  have hrole : decodeJwtRole J token = some payload.role := by
    rw [decodeJwtRole, J.parse_of_verified h]
    rfl
  rw [goes, if_pos (by decide), middleware, if_pos rfl, loginPage, truthy_token h]
  dsimp only
  rw [hrole, truthy?, h]
  by_cases hempty : payload.role = ""
  · rw [if_pos hempty, if_pos hempty]
    rfl
  · have hhome : (portal payload.role != "/login") = true := bne_iff_ne.mpr (portal_ne_login _)
    rw [if_neg hempty, if_neg hempty]
    dsimp only
    rw [← portal_eq, hhome]
    rfl

theorem location?_forward (payload : Payload) : (forward payload).location? = none := by
  have hboth (headers : List (String × String)) (valid : Bool) :
      (if valid then Response.next headers else .throws).location? = none := by
    cases valid <;> rfl
  exact hboth _ _

/-- Away from the login page and the public ones the guards decide. -/
theorem goes_private (h : J.verifyToken token = some payload) (hmatched : isMatched pathname = true)
    (hlogin : pathname ≠ "/login".toList) (hpublic : isPublic pathname = false) :
    goes J token authorization pathname = (checkGuards payload pathname).location? := by
  rw [goes, if_pos hmatched, middleware, if_neg hlogin, hpublic, if_neg (by decide),
    truthy_token h, Option.some_or]
  dsimp only
  rw [h]

theorem goes_unguarded (h : J.verifyToken token = some payload) (hlogin : pathname ≠ "/login".toList)
    (hguard : guarded pathname = false) : goes J token authorization pathname = none := by
  cases hmatched : isMatched pathname with
  | false => rw [goes, hmatched, if_neg (by decide)]
  | true =>
      cases hpublic : isPublic pathname with
      | true =>
          rw [goes, if_pos hmatched, middleware, if_neg hlogin, if_pos hpublic]
          rfl
      | false =>
          have hnone : (ROUTE_GUARDS.find? fun guard => startsWith pathname guard.pathPrefix) = none :=
            List.find?_eq_none.mpr fun guard hmem hprefix => by
              have hany : guarded pathname = true := List.any_eq_true.mpr ⟨guard, hmem, hprefix⟩
              cases hguard.symm.trans hany
          rw [goes_private authorization h hmatched hlogin hpublic, checkGuards, hnone]
          exact location?_forward payload

theorem goes_guarded (h : J.verifyToken token = some payload) (hmatched : isMatched pathname = true)
    (hguard : guarded pathname = true) :
    ∃ guard ∈ ROUTE_GUARDS, guard.pathPrefix.toList <+: pathname ∧
      goes J token authorization pathname
        = if guard.roles.contains payload.role then
            if payload.role = "ADMIN" ∧ hasTenant payload = false then some "/login".toList else none
          else some (newUrl (portal payload.role) pathname).pathname := by
  obtain ⟨hpublic, hlogin⟩ := guarded_private hguard
  rw [goes_private authorization h hmatched hlogin hpublic, checkGuards]
  cases hfind : ROUTE_GUARDS.find? fun guard => startsWith pathname guard.pathPrefix with
  | none =>
      obtain ⟨guard, hmem, hprefix⟩ := List.any_eq_true.mp hguard
      exact absurd hprefix (List.find?_eq_none.mp hfind guard hmem)
  | some guard =>
      have hprefix := List.find?_some hfind
      refine ⟨guard, List.mem_of_find?_eq_some hfind, startsWith_iff.mp hprefix, ?_⟩
      dsimp only
      cases hroles : guard.roles.contains payload.role with
      | false => rfl
      | true =>
          rw [if_pos rfl, if_pos rfl]
          by_cases hadmin : payload.role = "ADMIN" ∧ hasTenant payload = false
          · rw [if_pos hadmin, if_pos (by simp [hadmin])]
            rfl
          · rw [if_neg hadmin, if_neg (by simpa using hadmin)]
            exact location?_forward payload

/-! ## Who is sent round and round -/

theorem newUrl_slash {text : String} (h : text.toList.head? = some '/') (pathname : Pathname) :
    (newUrl text pathname).pathname = text.toList := if_pos h

theorem newUrl_name {text : String} (h : text.toList.head? ≠ some '/') (pathname : Pathname) :
    (newUrl text pathname).pathname = directory pathname ++ text.toList := if_neg h

theorem not_settles_admin (h : J.verifyToken token = some payload) (hadmin : payload.role = "ADMIN")
    (htenant : hasTenant payload = false) (hmatched : isMatched pathname = true)
    (hp : pathname = "/login".toList ∨ guarded pathname = true) :
    ¬Settles (goes J token authorization) pathname := by
  refine not_settles (C := fun q => isMatched q = true ∧ (q = "/login".toList ∨ guarded q = true))
    (fun q hq => ?_) ⟨hmatched, hp⟩
  obtain ⟨hmatched, rfl | hguard⟩ := hq
  · refine ⟨"/admin".toList, ?_, by decide, Or.inr (by decide)⟩
    rw [goes_login authorization h, hadmin]
    decide
  · obtain ⟨guard, -, -, hgoes⟩ := goes_guarded authorization h hmatched hguard
    cases hroles : guard.roles.contains payload.role with
    | true =>
        rw [hroles, if_pos rfl, if_pos ⟨hadmin, htenant⟩] at hgoes
        exact ⟨_, hgoes, by decide, Or.inl rfl⟩
    | false =>
        rw [hroles, if_neg (by decide), hadmin] at hgoes
        exact ⟨"/admin".toList, hgoes, by decide, Or.inr (by decide)⟩

theorem inherited_spec {role : String} (h : objectPrototype.any (·.1 == role) = true) :
    '/' ∉ (portal role).toList ∧ (portal role).toList.head? ≠ some '/' ∧
      (portal role).toList ≠ [] ∧
      (∀ guard ∈ ROUTE_GUARDS, guard.roles.contains role = false) ∧
      guarded ('/' :: (portal role).toList) = false ∧
      '/' :: (portal role).toList ≠ "/login".toList ∧
      ([".svg", ".png", ".jpg", ".jpeg", ".gif", ".webp"].any
        fun e => e.toList.getLast? == (portal role).toList.getLast?) = false := by
  have hall : ∀ e ∈ objectPrototype, '/' ∉ (portal e.1).toList ∧
      (portal e.1).toList.head? ≠ some '/' ∧ (portal e.1).toList ≠ [] ∧
      (∀ guard ∈ ROUTE_GUARDS, guard.roles.contains e.1 = false) ∧
      guarded ('/' :: (portal e.1).toList) = false ∧
      '/' :: (portal e.1).toList ≠ "/login".toList ∧
      ([".svg", ".png", ".jpg", ".jpeg", ".gif", ".webp"].any
        fun e' => e'.toList.getLast? == (portal e.1).toList.getLast?) = false := by decide +kernel
  obtain ⟨e, he, hrole⟩ := List.any_eq_true.mp h
  obtain rfl := beq_iff_eq.mp hrole
  exact hall e he

theorem isMatched_name {name : Pathname} (hguard : guarded pathname = true) (hname : name ≠ [])
    (hlast : ([".svg", ".png", ".jpg", ".jpeg", ".gif", ".webp"].any
      fun e => e.toList.getLast? == name.getLast?) = false) :
    isMatched (pathname ++ name) = true := by
  have hext : ∀ rest : Pathname, ([".svg", ".png", ".jpg", ".jpeg", ".gif", ".webp"].any
      fun e => e.toList.isSuffixOf (rest ++ name)) = false := by
    intro rest
    refine Bool.eq_false_iff.mpr fun hany => ?_
    obtain ⟨e, he, hsuffix⟩ := List.any_eq_true.mp hany
    obtain ⟨front, hfront⟩ := List.isSuffixOf_iff_suffix.mp hsuffix
    have hne : ∀ e ∈ [".svg", ".png", ".jpg", ".jpeg", ".gif", ".webp"], e.toList ≠ [] := by decide
    have hsame : e.toList.getLast? = name.getLast? := by
      rw [← List.getLast?_append_of_ne_nil front (hne e he), hfront,
        List.getLast?_append_of_ne_nil rest hname]
    exact List.any_eq_false.mp hlast e he (beq_iff_eq.mpr hsame)
  obtain ⟨rest, rfl | rfl | rfl | rfl⟩ := guarded_cases hguard
  · exact congrArg not (hext ("super-admin".toList ++ rest))
  · exact congrArg not (hext ("admin".toList ++ rest))
  · exact congrArg not (hext ("theatre".toList ++ rest))
  · exact congrArg not (hext ("scanner".toList ++ rest))

/-- A role of that name is sent to a path next to the one it may not see. -/
theorem not_settles_inherited (h : J.verifyToken token = some payload)
    (hrole : objectPrototype.any (·.1 == payload.role) = true) (hmatched : isMatched pathname = true)
    (hguard : guarded (directory pathname) = true) :
    ¬Settles (goes J token authorization) pathname := by
  obtain ⟨hslash, hhead, hname, hroles, -, -, hlast⟩ := inherited_spec hrole
  refine not_settles (C := fun q => isMatched q = true ∧ directory q = directory pathname)
    (fun q hq => ?_) ⟨hmatched, rfl⟩
  obtain ⟨hmatched, hdir⟩ := hq
  have hq : guarded q = true := by
    obtain ⟨rest, hrest, -⟩ := directory_append q
    rw [hrest, hdir]
    exact guarded_append hguard rest
  obtain ⟨guard, hmem, -, hgoes⟩ := goes_guarded authorization h hmatched hq
  rw [hroles guard hmem, if_neg (by decide), newUrl_name hhead] at hgoes
  refine ⟨_, hgoes, ?_, (directory_name q hslash).trans hdir⟩
  rw [hdir]
  exact isMatched_name hguard hname hlast

/-- Next to the first part of a path with a guard there is the top. -/
theorem directory_eq_root (hguard : guarded pathname = true)
    (hdir : guarded (directory pathname) = false) : directory pathname = ['/'] := by
  obtain ⟨name, hsplit, hname⟩ := directory_append pathname
  obtain ⟨guard, hmem, hprefix⟩ := guarded_iff.mp hguard
  have hslash : ∀ guard ∈ ROUTE_GUARDS, '/' ∈ guard.pathPrefix.toList := by decide
  have hne : directory pathname ≠ [] := by
    intro hnil
    rw [hnil, List.nil_append] at hsplit
    exact hname (hsplit ▸ hprefix.subset (hslash guard hmem))
  have hlast : (directory pathname).getLast? = some '/' := by
    rw [List.getLast?_eq_some_getLast hne]
    have hlast : ¬((directory pathname).getLast hne != '/') = true :=
      List.rdropWhile_last_not (· != '/') pathname hne
    exact congrArg some (by simpa using hlast)
  have hshort : directory pathname <+: guard.pathPrefix.toList := by
    have hdirectory : directory pathname <+: pathname := List.rdropWhile_prefix _ _
    refine (List.prefix_or_prefix_of_prefix hdirectory hprefix).resolve_right fun hlong => ?_
    cases hdir.symm.trans (guarded_iff.mpr ⟨guard, hmem, hlong⟩)
  have htop : ∀ guard ∈ ROUTE_GUARDS, ∀ d ∈ guard.pathPrefix.toList.inits,
      d.getLast? = some '/' → d = ['/'] := by decide
  exact htop guard hmem _ ((List.mem_inits _ _).mpr hshort) hlast

theorem goes_portal (h : J.verifyToken token = some payload)
    (hp : pathname = "/login".toList ∨ guarded pathname = true) (hnot : ¬Loops payload pathname) :
    goes J token authorization (newUrl (portal payload.role) pathname).pathname = none := by
  rw [Loops, not_or] at hnot
  cases hlookup : ROLE_REDIRECT.lookup payload.role with
  | some home =>
      obtain ⟨l, l', htable, -⟩ := List.lookup_eq_some_iff.mp hlookup
      have hmem : (payload.role, home) ∈ ROLE_REDIRECT := by rw [htable]; simp
      have hall : ∀ e ∈ ROLE_REDIRECT, e.2.toList.head? = some '/' ∧ e.2.toList ≠ "/login".toList ∧
          isMatched e.2.toList = true ∧ ∀ guard ∈ ROUTE_GUARDS,
            guard.pathPrefix.toList <+: e.2.toList → guard.roles.contains e.1 = true := by decide
      obtain ⟨hhead, hlogin, hmatched, hroles⟩ := hall _ hmem
      have hportal : portal payload.role = home := by
        rw [portal_eq, List.lookup_append, hlookup]
        rfl
      rw [hportal, newUrl_slash hhead]
      cases hguard : guarded home.toList with
      | false => exact goes_unguarded authorization h hlogin hguard
      | true =>
          obtain ⟨guard, hmem', hprefix, hgoes⟩ :=
            goes_guarded authorization h hmatched hguard
          rw [hgoes, if_pos (hroles guard hmem' hprefix), if_neg]
          exact fun hadmin => hnot.1 ⟨hadmin.1, hadmin.2, hp⟩
  | none =>
      cases hinherited : objectPrototype.any (·.1 == payload.role) with
      | true =>
          obtain ⟨-, hhead, -, -, hguard, hlogin, -⟩ := inherited_spec hinherited
          have hroot : directory pathname = ['/'] := by
            rcases hp with rfl | hp
            · decide
            · refine directory_eq_root hp (Bool.eq_false_iff.mpr fun hdir => ?_)
              exact hnot.2 ⟨hinherited, hdir⟩
          rw [newUrl_name hhead, hroot]
          exact goes_unguarded authorization h hlogin hguard
      | false =>
          have hportal : portal payload.role = "/" := by
            have hnone : objectPrototype.lookup payload.role = none :=
              List.lookup_eq_none_iff.mpr fun e he => by
                have hne := List.any_eq_false.mp hinherited e he
                exact bne_iff_ne.mpr fun heq => hne (beq_iff_eq.mpr heq.symm)
            rw [portal_eq, List.lookup_append, hlookup, hnone]
            rfl
          rw [hportal, newUrl_slash (by decide)]
          exact goes_unguarded authorization h (by decide) (by decide)

/-- **Redirects**: with a cookie that verifies, they come to an end but for an
administrator without a tenant and for a role named as a member of every object. -/
theorem settles_iff (h : J.verifyToken token = some payload) (hmatched : isMatched pathname = true) :
    Settles (goes J token authorization) pathname ↔ ¬Loops payload pathname := by
  constructor
  · rintro hsettles (⟨hadmin, htenant, hp⟩ | ⟨hrole, hguard⟩)
    · exact not_settles_admin authorization h hadmin htenant hmatched hp hsettles
    · exact not_settles_inherited authorization h hrole hmatched hguard hsettles
  · intro hnot
    by_cases hlogin : pathname = "/login".toList
    · subst hlogin
      have hgoes := goes_login authorization h
      by_cases hrole : payload.role = ""
      · exact .done (hgoes.trans (if_pos hrole))
      · exact .goes (hgoes.trans (if_neg hrole)) (.done (goes_portal authorization h (Or.inl rfl) hnot))
    · cases hguard : guarded pathname with
      | false => exact .done (goes_unguarded authorization h hlogin hguard)
      | true =>
          obtain ⟨guard, -, -, hgoes⟩ := goes_guarded authorization h hmatched hguard
          cases hroles : guard.roles.contains payload.role with
          | false =>
              rw [hroles, if_neg (by decide)] at hgoes
              exact .goes hgoes (.done (goes_portal authorization h (Or.inr hguard) hnot))
          | true =>
              rw [hroles, if_pos rfl, if_neg] at hgoes
              · exact .done hgoes
              · exact fun hadmin => hnot (Or.inl ⟨hadmin.1, hadmin.2, Or.inr hguard⟩)

end Verified

namespace Sample

/-- HS256 with the default secret: an administrator without a tenant. -/
def adminToken : String := "eyJhbGciOiJIUzI1NiJ9." ++
    "eyJzdWIiOiJ1MSIsInJvbGUiOiJBRE1JTiJ9." ++
    "MxhwxD12mSkrW-bp8mLtL_Vo9lHs33DImTCh5hPuWSw"

def admin : Payload := ⟨"u1", "ADMIN", none, none⟩

def userToken : String := "eyJhbGciOiJIUzI1NiJ9." ++
    "eyJzdWIiOiJ1MiIsInJvbGUiOiJVU0VSIn0." ++
    "Grc65iFjMFyqcw_lc8qVDBONTu6UxZRKjM-iVw4h__g"

def user : Payload := ⟨"u2", "USER", none, none⟩

def parse (token : String) : Option Payload :=
  if token = adminToken then some admin else if token = userToken then some user else none

def jwt : Jwt := ⟨parse, parse, id, by decide⟩

end Sample

theorem settles_user :
    Settles (goes Sample.jwt Sample.userToken none) "/admin/events".toList ↔
      ¬Loops Sample.user "/admin/events".toList :=
  settles_iff (J := Sample.jwt) none (by decide) (by decide)

/-- The login page and the portal of an administrator without a tenant. -/
theorem not_settles_login :
    ¬ ∀ (J : Jwt) (token : String) (payload : Payload) (authorization : Option String)
        (pathname : Pathname), J.verifyToken token = some payload → isMatched pathname = true →
      Settles (goes J token authorization) pathname := by
  intro h
  have hadmin := h Sample.jwt Sample.adminToken Sample.admin none "/admin".toList (by decide) (by decide)
  have hverify : Sample.jwt.verifyToken Sample.adminToken = some Sample.admin := by decide
  exact not_settles_admin none hverify rfl (by decide) (by decide) (Or.inr (by decide)) hadmin

end Omnipax.Middleware
