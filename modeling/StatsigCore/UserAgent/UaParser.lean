-- What the first-party parser reads from a user agent
-- (`user_agent_parsing/first_party_ua_parser.rs`, `statsig_uaparser/ua_parser.rs` and the versions of
-- `tokenizer.rs`): the system and the browser, each with a version. The name of a system is always
-- one of thirteen.
import StatsigCore.Evaluation.Evaluator
import StatsigCore.UserAgent.TokenOrder

namespace statsig_rust.evaluation.user_agent_parsing

open id_lists_adapter (Text)

/-! ## Versions -/

structure Version where
  major : Option Text := none
  minor : Option Text := none
  patch : Option Text := none
  patch_minor : Option Text := none
deriving DecidableEq

/-- `Version::major`. -/
def Version.of_major (major : String) : Version := { major := some major.toList }

/-- The parts that there are, from the major one on. -/
def Version.parts (version : Version) : List Text :=
  version.major.toList ++ version.minor.toList ++ version.patch.toList ++
    version.patch_minor.toList

def Version.get_version_string (version : Version) : Option Text :=
  version.major.map fun major =>
    let push := fun (text : Text) (part : Option Text) => match part with
      | some part => text ++ '.' :: part
      | none => text
    push (push (push major version.minor) version.patch) version.patch_minor

/-- `split_terminator(['_', ',', '.'])`: no part for what is after the last separator, if there is
nothing. -/
def split_terminator (text : Text) : List Text :=
  let parts := text.splitOnP fun c => c = '_' || c = ',' || c = '.'
  if parts.getLast? = some [] then parts.dropLast else parts

def take_until_non_numeric (s : Text) : Text := s.takeWhile Char.isDigit

/-- The names of the releases of Windows. -/
def mapped (version : Text) : String :=
  if version = "5.1".toList then "XP"
  else if version = "5.2".toList then "XP"
  else if version = "6.0".toList then "Vista"
  else if version = "6.1".toList then "7"
  else if version = "6.3".toList then "8.1"
  else if version = "10.0".toList then "10"
  else "0.0.0"

def Token.get_version (token : Token) : Option Version :=
  match token.version with
  | none => some (.of_major "0.0.0")
  | some version =>
    if token.tag = "Windows".toList then some (.of_major (mapped version))
    else
      let parts := split_terminator version
      let version : Version :=
        { major := parts[0]?, minor := parts[1]?.map take_until_non_numeric, patch := parts[2]? }
      if token.tag = "YaBrowser".toList ∨ token.tag = "Opera".toList ∨
          token.tag = "NetFront NX".toList then some version
      else some { version with patch_minor := parts[3]? }

/-! ## The parser -/

structure ParserResult where
  name : Text
  version : Version
deriving DecidableEq

def create_res (name : String) (version : Option Version) : ParserResult :=
  { name := name.toList, version := version.getD {} }

/-- A result that has the name of the token. -/
def create_res_of (token : Token) : ParserResult :=
  { name := token.tag, version := token.get_version.getD {} }

/-- What one token says about the system. -/
def os_of_token (result : TokenizerResult) (token : Token) : Option ParserResult :=
  let is (name : String) : Prop := token.tag = name.toList
  if is "ATV OS X" then some (create_res "ATV OS X" none)
  else if is "iPhone OS" ∨ is "iOS" then some (create_res "iOS" token.get_version)
  else if is "CPU OS" ∧ result.ios_hint then some (create_res "iOS" token.get_version)
  else if is "Version" ∧ result.ios_hint ∧ result.macos_hint then
    some (create_res "iOS" token.get_version)
  else if is "CFNetwork" then some (create_res "iOS" none)
  else if is "Android" then some (create_res_of token)
  else if starts_with token.tag "Android" then some (create_res "Android" none)
  else if is "Chromecast" then some (create_res "Chromecast" none)
  else if is "Red Hat" then some (create_res "Red Hat" none)
  else if is "Kindle" then some (create_res "Kindle" token.get_version)
  else if is "Ubuntu" then some (create_res "Ubuntu" token.get_version)
  else none

def os_of_hints (result : TokenizerResult) : ParserResult :=
  if result.ios_hint then create_res "iOS" none
  else if result.macos_hint then create_res "Mac OS X" none
  else if result.windows_hint then create_res "Windows" none
  else if result.linux_hint then create_res "Linux" none
  else create_res "Other" none

def parse_os (agent : Text) : ParserResult :=
  let result := run agent
  match result.possible_os_token with
  | some token => create_res_of token
  | none => (result.tokens.findSome? (os_of_token result)).getD (os_of_hints result)

/-- The tokens that the loop of `parse_browser` keeps for the end. -/
structure Kept where
  android_token : Option Token := none
  chrome_token : Option Token := none
  version_token : Option Token := none
deriving DecidableEq

/-- One turn of the loop: a result, or what is kept. -/
def browser_of_token (result : TokenizerResult) (kept : Kept) (token : Token) :
    ParserResult ⊕ Kept :=
  let is (name : String) : Prop := token.tag = name.toList
  if is "Firefox" then
    if result.mobile_hint then .inl (create_res "Firefox Mobile" token.get_version)
    else .inl (create_res "Firefox" token.get_version)
  else if is "Android" then .inr { kept with android_token := some token }
  else if is "Version" then .inr { kept with version_token := some token }
  else if is "Yahoo! Slurp" then .inl (create_res "Yahoo! Slurp" none)
  else if is "Silk" then
    if result.playstation_hint then .inl (create_res "NetFront NX" none)
    else .inl (create_res "Amazon Silk" token.get_version)
  else if is "NetFront NX" then .inl (create_res "NetFront NX" token.get_version)
  else if is "YaBrowser" then .inl (create_res "Yandex Browser" token.get_version)
  else if is "Edge" ∧ result.mobile_hint then .inl (create_res "Edge Mobile" token.get_version)
  else if is "Edge" then .inl (create_res "Edge" token.get_version)
  else if is "Opera" then
    if result.mobile_hint then .inl (create_res "Opera Mobile" token.get_version)
    else .inl (create_res "Opera" token.get_version)
  else if is "Chrome" then .inr { kept with chrome_token := some token }
  else if is "axios" then .inl (create_res "axios" token.get_version)
  else if is "HeadlessChrome" then .inl (create_res "HeadlessChrome" token.get_version)
  else .inr kept

def scan_browser (result : TokenizerResult) : Kept → List Token → ParserResult ⊕ Kept
  | kept, [] => .inr kept
  | kept, token :: tokens =>
    match browser_of_token result kept token with
    | .inl found => .inl found
    | .inr kept => scan_browser result kept tokens

/-- The end of `parse_browser`, when no token has said it alone. -/
def browser_of_kept (result : TokenizerResult) (kept : Kept) : ParserResult :=
  match kept.chrome_token, kept.android_token with
  | some chrome, android_token =>
    if kept.version_token.isSome then create_res "Chrome Mobile WebView" chrome.get_version
    else if result.mobile_hint ∧ chrome.version.isSome ∧ !result.huawei_hint then
      create_res "Chrome Mobile" chrome.get_version
    else
      match chrome.version, android_token with
      | none, some android => create_res "Android" android.get_version
      | _, _ => create_res "Chrome" chrome.get_version
  | none, some android => create_res "Android" android.get_version
  | none, none =>
    match result.cfnetwork_hint, result.tokens with
    | true, first :: rest =>
      if first.tag = "NetworkingExtension".toList then
        create_res "CFNetwork" (rest.head?.bind Token.get_version)
      else create_res_of first
    | _, _ =>
      if result.safari_hint then
        let version := kept.version_token.bind Token.get_version
        if result.mobile_hint ∧ !result.macos_hint then create_res "Mobile Safari" version
        else create_res "Safari" version
      else if result.ios_hint then create_res "Mobile Safari UI/WKWebView" none
      else if result.crawler_hint then create_res "crawler" none
      else create_res "Other" none

def parse_browser (agent : Text) : ParserResult :=
  let result := run agent
  match result.possible_browser_token with
  | some token => create_res_of token
  | none =>
    match scan_browser result {} result.tokens with
    | .inl found => found
    | .inr kept => browser_of_kept result kept

/-- `FirstPartyUserAgentParser::get_value_from_user_agent`. -/
def first_party_value (field : String) (user_agent : Text) : Option Text :=
  match field with
  | "os_name" | "osname" => some (parse_os user_agent).name
  | "os_version" | "osversion" =>
    some ((parse_os user_agent).version.get_version_string.getD "0.0.0".toList)
  | "browser_name" | "browsername" => some (parse_browser user_agent).name
  | "browser_version" | "browserversion" =>
    some ((parse_browser user_agent).version.get_version_string.getD "0.0.0".toList)
  | _ => none

/-- The parser in the place that the evaluator has for it. -/
def with_first_party (parsers : Parsers) : Parsers :=
  { parsers with
    first_party_ua := fun field user_agent =>
      (first_party_value field user_agent.toList).map fun value =>
        parsers.from_string (String.ofList value) }

/-! ## Where the parts of a version come from -/

/-- The versions that are not in the agent: what stands for no version, and the releases of
Windows. -/
def FIXED : List String := ["0.0.0", "XP", "Vista", "7", "8.1", "10"]

def PartFrom (ws : List Text) (part : Text) : Prop := Named FIXED part ∨ PieceOf ws part

def Version.From (ws : List Text) (version : Version) : Prop :=
  ∀ part ∈ version.parts, PartFrom ws part

/-- The first part is a beginning of the text, and the others are pieces of it. No part has a
separator in it. -/
theorem splitOnP_parts (p : Char → Bool) (text : Text) : ∃ first rest,
    text.splitOnP p = first :: rest ∧ first <+: text ∧ (∀ part ∈ rest, part <:+: text) ∧
      ∀ part ∈ first :: rest, ∀ c ∈ part, p c = false := by
  induction text with
  | nil => exact ⟨[], [], rfl, List.prefix_rfl, List.forall_mem_nil _, by simp⟩
  | cons c text ih =>
    obtain ⟨first, rest, hsplit, hfirst, hrest, hsep⟩ := ih
    rw [List.splitOnP_cons_eq_if_modifyHead, hsplit]
    have hmore {part : Text} (h : part <:+: text) : part <:+: c :: text :=
      h.trans (List.suffix_cons c text).isInfix
    cases hc : p c with
    | true =>
      refine ⟨[], first :: rest, rfl, List.nil_prefix, ?_, ?_⟩
      · intro part hpart
        rcases List.mem_cons.mp hpart with rfl | hpart
        · exact hmore hfirst.isInfix
        · exact hmore (hrest part hpart)
      · intro part hpart
        rcases List.mem_cons.mp hpart with rfl | hpart
        · exact List.forall_mem_nil _
        · exact hsep part hpart
    | false =>
      refine ⟨c :: first, rest, rfl, List.cons_prefix_cons.mpr ⟨rfl, hfirst⟩,
        fun part hpart => hmore (hrest part hpart), ?_⟩
      intro part hpart
      rcases List.mem_cons.mp hpart with rfl | hpart
      · intro d hd
        rcases List.mem_cons.mp hd with rfl | hd
        · exact hc
        · exact hsep first List.mem_cons_self d hd
      · exact hsep part (List.mem_cons_of_mem first hpart)

theorem infix_of_mem_splitOnP {p : Char → Bool} {text part : Text} (h : part ∈ text.splitOnP p) :
    part <:+: text := by
  obtain ⟨first, rest, hsplit, hfirst, hrest, -⟩ := splitOnP_parts p text
  rw [hsplit] at h
  rcases List.mem_cons.mp h with rfl | h
  · exact hfirst.isInfix
  · exact hrest part h

theorem infix_of_mem_split_terminator {text part : Text} (h : part ∈ split_terminator text) :
    part <:+: text := by
  unfold split_terminator at h
  dsimp only at h
  split at h
  · exact infix_of_mem_splitOnP (List.mem_of_mem_dropLast h)
  · exact infix_of_mem_splitOnP h

theorem mem_parts {version : Version} {part : Text} (h : part ∈ version.parts) :
    version.major = some part ∨ version.minor = some part ∨ version.patch = some part ∨
      version.patch_minor = some part := by
  simpa [Version.parts, or_assoc] using h

/-- Every part of a version is a piece of the text that it is split from. -/
theorem part_of_split {text part : Text} {version : Version} {patch_minor : Option Text}
    (hversion : version =
      { major := (split_terminator text)[0]?
        minor := (split_terminator text)[1]?.map take_until_non_numeric
        patch := (split_terminator text)[2]?
        patch_minor := patch_minor })
    (hminor : patch_minor = none ∨ patch_minor = (split_terminator text)[3]?)
    (h : part ∈ version.parts) : part <:+: text := by
  have hget {i : Nat} {piece : Text} (h : (split_terminator text)[i]? = some piece) :
      piece <:+: text :=
    infix_of_mem_split_terminator (List.mem_of_getElem? h)
  rw [hversion] at h
  rcases mem_parts h with h | h | h | h
  · exact hget h
  · obtain ⟨piece, hpiece, rfl⟩ := Option.map_eq_some_iff.mp h
    exact (List.takeWhile_prefix _).isInfix.trans (hget hpiece)
  · exact hget h
  · rcases hminor with rfl | rfl
    · cases h
    · exact hget h

theorem fixed_version {ws : List Text} {major : String} (h : major ∈ FIXED) :
    (Version.of_major major).From ws := by
  intro part hpart
  rw [List.mem_singleton.mp hpart]
  exact .inl (named h)

theorem mapped_mem (version : Text) : mapped version ∈ FIXED := by
  unfold mapped
  split_ifs <;> decide

theorem xp_from (ws : List Text) {part : Text} {patch_minor : Option Text}
    (hminor : patch_minor = none ∨ patch_minor = (split_terminator "XP".toList)[3]?)
    (h : part ∈ (Version.mk (split_terminator "XP".toList)[0]?
      ((split_terminator "XP".toList)[1]?.map take_until_non_numeric)
      (split_terminator "XP".toList)[2]? patch_minor).parts) : PartFrom ws part := by
  have hsplit : split_terminator "XP".toList = ["XP".toList] := by decide
  rw [hsplit] at h hminor
  have hnone : patch_minor = none := by
    rcases hminor with hminor | hminor
    · exact hminor
    · exact hminor
  rw [hnone] at h
  rw [List.mem_singleton.mp h]
  exact .inl (named (by decide))

theorem get_version_from {ws : List Text} {token : Token} (h : VersionFrom ws token.version) :
    ∀ version ∈ token.get_version, version.From ws := by
  intro version hversion
  unfold Token.get_version at hversion
  cases htext : token.version with
  | none =>
    rw [htext] at hversion
    cases hversion
    exact fixed_version (by decide)
  | some text =>
    have hsplit {patch_minor : Option Text}
        (hminor : patch_minor = none ∨ patch_minor = (split_terminator text)[3]?) :
        (Version.mk (split_terminator text)[0]?
          ((split_terminator text)[1]?.map take_until_non_numeric) (split_terminator text)[2]?
          patch_minor).From ws := by
      intro part hpart
      rcases h text htext with rfl | hpiece
      · exact xp_from ws hminor hpart
      · exact .inr (hpiece.piece (part_of_split rfl hminor hpart))
    rw [htext] at hversion
    dsimp only at hversion
    split at hversion
    · cases hversion
      exact fixed_version (mapped_mem text)
    · split at hversion
      · cases hversion
        exact hsplit (.inl rfl)
      · cases hversion
        exact hsplit (.inr rfl)

/-! ## The system -/

/-- A result with one of these names, and with a version from the words. -/
structure ParserResult.From (names : List String) (ws : List Text) (res : ParserResult) : Prop where
  name : Named names res.name
  version : res.version.From ws

def OS_NAMES : List String := OS_TAGS ++ ["ATV OS X", "Linux", "Other"]

section From

variable {names : List String} {ws : List Text} {token : Token} {result : TokenizerResult}

theorem no_version (ws : List Text) : (Version.mk none none none none).From ws :=
  List.forall_mem_nil _

theorem from_create_res {name : String} {version : Option Version} (h : name ∈ names)
    (hversion : ∀ v ∈ version, v.From ws) : (create_res name version).From names ws := by
  refine ⟨named h, ?_⟩
  cases version with
  | none => exact no_version ws
  | some version => exact hversion version rfl

theorem from_create_res_none {name : String} (h : name ∈ names) :
    (create_res name none).From names ws :=
  from_create_res h fun _ h => nomatch h

theorem create_res_of_version (h : VersionFrom ws token.version) :
    (create_res_of token).version.From ws := by
  unfold create_res_of
  cases hversion : token.get_version with
  | none => exact no_version ws
  | some version => exact get_version_from h version hversion

theorem ite_forall {α : Type} {P : α → Prop} {c : Prop} [Decidable c] {x y : Option α}
    (h : c → ∀ a ∈ x, P a) (h' : ¬c → ∀ a ∈ y, P a) : ∀ a ∈ (if c then x else y), P a := by
  split
  · next hc => exact h hc
  · next hc => exact h' hc

theorem os_of_token_from (h : VersionFrom ws token.version) :
    ∀ res ∈ os_of_token result token, res.From OS_NAMES ws := by
  have hversion := get_version_from h
  have hres {name : String} {version : Option Version} (hname : name ∈ OS_NAMES)
      (hversion : ∀ v ∈ version, v.From ws) :
      ∀ res ∈ some (create_res name version), res.From OS_NAMES ws := by
    rintro res ⟨⟩
    exact from_create_res hname hversion
  have hnone {name : String} (hname : name ∈ OS_NAMES) :
      ∀ res ∈ some (create_res name none), res.From OS_NAMES ws :=
    hres hname fun _ h => nomatch h
  unfold os_of_token
  dsimp only
  refine ite_forall (fun _ => hnone (by decide)) fun _ => ?_
  refine ite_forall (fun _ => hres (by decide) hversion) fun _ => ?_
  refine ite_forall (fun _ => hres (by decide) hversion) fun _ => ?_
  refine ite_forall (fun _ => hres (by decide) hversion) fun _ => ?_
  refine ite_forall (fun _ => hnone (by decide)) fun _ => ?_
  refine ite_forall (fun htag => ?_) fun _ => ?_
  · rintro res ⟨⟩
    exact ⟨⟨"Android", by decide, htag⟩, create_res_of_version h⟩
  refine ite_forall (fun _ => hnone (by decide)) fun _ => ?_
  refine ite_forall (fun _ => hnone (by decide)) fun _ => ?_
  refine ite_forall (fun _ => hnone (by decide)) fun _ => ?_
  refine ite_forall (fun _ => hres (by decide) hversion) fun _ => ?_
  refine ite_forall (fun _ => hres (by decide) hversion) fun _ => ?_
  exact fun _ h => nomatch h

theorem os_of_hints_from : (os_of_hints result).From OS_NAMES ws := by
  unfold os_of_hints
  split_ifs <;> exact from_create_res_none (by decide)

end From

theorem ran (agent : Text) : RanOver (words agent) (run agent) := (run_spec agent).2

/-- The branches of the loop that no agent reaches: a word has no blank in it, and no token is made
of `CFNetwork`. -/
theorem no_dead_tag {agent : Text} {token : Token} (h : token ∈ (run agent).tokens) :
    token.tag ≠ "iPhone OS".toList ∧ token.tag ≠ "CFNetwork".toList := by
  have hnames : ∀ name ∈ TAGS, name.toList ≠ "iPhone OS".toList ∧
      name.toList ≠ "CFNetwork".toList := by decide
  rcases ((ran agent).token_from h).tag with ⟨name, hname, htag⟩ | ⟨⟨word, hword, hinside⟩, hcf⟩
  · rw [htag]
    exact hnames name hname
  · refine ⟨fun htag => ?_, hcf⟩
    obtain ⟨first, rest, hsplit, -, -, hsep⟩ :=
      splitOnP_parts (fun c => c = ';' || c = ' ') agent
    have hblank : ' ' ∈ word := hinside.subset (by rw [htag]; decide)
    have hno := hsep word (hsplit ▸ hword) ' ' hblank
    exact absurd hno (by decide)

theorem parse_os_from (agent : Text) : (parse_os agent).From OS_NAMES (words agent) := by
  unfold parse_os
  dsimp only
  cases hos : (run agent).possible_os_token with
  | some token =>
    obtain ⟨⟨name, hname, htag⟩, hversion⟩ := (ran agent).os token hos
    exact ⟨⟨name, List.mem_append_left _ hname, htag⟩, create_res_of_version hversion⟩
  | none =>
    dsimp only
    cases hfind : (run agent).tokens.findSome? (os_of_token (run agent)) with
    | none => exact os_of_hints_from
    | some res =>
      obtain ⟨token, htoken, hres⟩ := List.exists_of_findSome?_eq_some hfind
      exact os_of_token_from ((ran agent).token_from htoken).version res hres

/-- The system of an agent is one of thirteen, and a part of its version is either a piece of a word
of the agent or one of six. The branches for `iPhone OS` and `CFNetwork` are never taken. -/
theorem os_is_known (agent : Text) :
    (parse_os agent).From OS_NAMES (words agent) ∧
      ∀ token ∈ (run agent).tokens, token.tag ≠ "iPhone OS".toList ∧
        token.tag ≠ "CFNetwork".toList :=
  ⟨parse_os_from agent, fun _ => no_dead_tag⟩

/-- So a condition on the name of the system reads nothing, or one of thirteen names. -/
theorem os_name_read {env : EvaluatorEnv} {parsers : Parsers} {field : DynamicString}
    (hparsers : env.parsers = with_first_party parsers)
    (hfirst : env.should_user_third_party_ua = false)
    (hfield : field.lowercased_value = "os_name" ∨ field.lowercased_value = "osname") :
    ∀ value ∈ (get_value_from_user_agent env (some field)).value,
      ∃ name ∈ OS_NAMES, value = parsers.from_string name := by
  intro value hvalue
  unfold get_value_from_user_agent at hvalue
  dsimp only at hvalue
  split at hvalue
  · cases hvalue
  · next user_agent _ =>
    rw [hfirst, hparsers] at hvalue
    split at hvalue
    · cases hvalue
    · have hread : first_party_value field.lowercased_value user_agent.value.toList =
          some (parse_os user_agent.value.toList).name := by
        rcases hfield with hfield | hfield
        · rw [hfield]
          rfl
        · rw [hfield]
          rfl
      obtain ⟨name, hname, htag⟩ := (parse_os_from user_agent.value.toList).name
      refine ⟨name, hname, ?_⟩
      simp only [Bool.false_eq_true, if_false, with_first_party, hread, Option.map_some,
        Option.mem_some_iff] at hvalue
      rw [← hvalue, htag, String.ofList_toList]

/-! ## The browser -/

def BROWSER_NAMES : List String :=
  BROWSER_TAGS ++ ["Firefox", "Firefox Mobile", "Yahoo! Slurp", "Amazon Silk", "Yandex Browser",
    "Edge", "Opera", "Opera Mobile", "axios", "HeadlessChrome", "Chrome Mobile WebView",
    "Chrome Mobile", "Chrome", "Android", "CFNetwork", "Safari", "Mobile Safari",
    "Mobile Safari UI/WKWebView", "crawler", "Other"]

/-- The name of a browser: one of the list, but for a bot and for what Apple's network library
writes about an app, both of which a word of the agent tells. -/
structure BrowserFrom (ws : List Text) (result : TokenizerResult) (res : ParserResult) : Prop where
  name : Named BROWSER_NAMES res.name ∨
    (result.bot_detected ∧ SaysBot ws ∨ result.cfnetwork_hint ∧ PieceOf ws "CFNetwork".toList) ∧
      TagFrom ws res.name
  version : res.version.From ws

structure KeptFrom (ws : List Text) (kept : Kept) : Prop where
  android_token : ∀ token ∈ kept.android_token, token.From ws
  chrome_token : ∀ token ∈ kept.chrome_token, token.From ws
  version_token : ∀ token ∈ kept.version_token, token.From ws

/-- What one turn of the loop gives, or keeps, is read from the words. -/
def FoundFrom (ws : List Text) (result : TokenizerResult) : ParserResult ⊕ Kept → Prop
  | .inl res => BrowserFrom ws result res
  | .inr kept => KeptFrom ws kept

section Browser

variable {ws : List Text} {token : Token} {result : TokenizerResult} {kept : Kept}

theorem browser_from {name : String} {version : Option Version} (h : name ∈ BROWSER_NAMES)
    (hversion : ∀ v ∈ version, v.From ws) : BrowserFrom ws result (create_res name version) := by
  obtain ⟨hname, hversion⟩ := from_create_res h hversion
  exact ⟨.inl hname, hversion⟩

theorem browser_from_none {name : String} (h : name ∈ BROWSER_NAMES) :
    BrowserFrom ws result (create_res name none) :=
  browser_from h fun _ h => nomatch h

theorem found_ite {c : Prop} [Decidable c] {x y : ParserResult ⊕ Kept}
    (h : c → FoundFrom ws result x) (h' : ¬c → FoundFrom ws result y) :
    FoundFrom ws result (if c then x else y) := by
  split
  · next hc => exact h hc
  · next hc => exact h' hc

theorem browser_of_token_from (hkept : KeptFrom ws kept) (h : token.From ws) :
    FoundFrom ws result (browser_of_token result kept token) := by
  have hfound {name : String} (hname : name ∈ BROWSER_NAMES) :
      FoundFrom ws result (.inl (create_res name token.get_version)) :=
    browser_from hname (get_version_from h.version)
  have hnone {name : String} (hname : name ∈ BROWSER_NAMES) :
      FoundFrom ws result (.inl (create_res name none)) :=
    browser_from_none hname
  have hthis : ∀ other ∈ some token, other.From ws := by
    rintro other ⟨⟩
    exact h
  unfold browser_of_token
  dsimp only
  refine found_ite (fun _ => ?_) fun _ => ?_
  · exact found_ite (fun _ => hfound (by decide)) fun _ => hfound (by decide)
  refine found_ite (fun _ => ⟨hthis, hkept.chrome_token, hkept.version_token⟩) fun _ => ?_
  refine found_ite (fun _ => ⟨hkept.android_token, hkept.chrome_token, hthis⟩) fun _ => ?_
  refine found_ite (fun _ => hnone (by decide)) fun _ => ?_
  refine found_ite (fun _ => ?_) fun _ => ?_
  · exact found_ite (fun _ => hnone (by decide)) fun _ => hfound (by decide)
  refine found_ite (fun _ => hfound (by decide)) fun _ => ?_
  refine found_ite (fun _ => hfound (by decide)) fun _ => ?_
  refine found_ite (fun _ => hfound (by decide)) fun _ => ?_
  refine found_ite (fun _ => hfound (by decide)) fun _ => ?_
  refine found_ite (fun _ => ?_) fun _ => ?_
  · exact found_ite (fun _ => hfound (by decide)) fun _ => hfound (by decide)
  refine found_ite (fun _ => ⟨hkept.android_token, hthis, hkept.version_token⟩) fun _ => ?_
  refine found_ite (fun _ => hfound (by decide)) fun _ => ?_
  refine found_ite (fun _ => hfound (by decide)) fun _ => ?_
  exact hkept

theorem scan_browser_from {tokens : List Token} (hkept : KeptFrom ws kept)
    (h : ∀ token ∈ tokens, token.From ws) :
    FoundFrom ws result (scan_browser result kept tokens) := by
  induction tokens generalizing kept with
  | nil => exact hkept
  | cons token tokens ih =>
    have hturn : FoundFrom ws result (browser_of_token result kept token) :=
      browser_of_token_from hkept (h token List.mem_cons_self)
    unfold scan_browser
    cases hfound : browser_of_token result kept token with
    | inl found =>
      rw [hfound] at hturn
      exact hturn
    | inr kept' =>
      rw [hfound] at hturn
      exact ih hturn fun other hother => h other (List.mem_cons_of_mem token hother)

theorem browser_of_kept_from (hkept : KeptFrom ws kept)
    (hword : result.cfnetwork_hint → PieceOf ws "CFNetwork".toList)
    (h : ∀ token ∈ result.tokens, token.From ws) :
    BrowserFrom ws result (browser_of_kept result kept) := by
  have hkeeps {token : Token} {name : String} (hname : name ∈ BROWSER_NAMES)
      (htoken : token.From ws) : BrowserFrom ws result (create_res name token.get_version) :=
    browser_from hname (get_version_from htoken.version)
  unfold browser_of_kept
  cases hchrome : kept.chrome_token with
  | some chrome =>
    have hfrom := hkept.chrome_token chrome hchrome
    dsimp only
    split_ifs
    · exact hkeeps (by decide) hfrom
    · exact hkeeps (by decide) hfrom
    · cases hversion : chrome.version with
      | some _ => exact hkeeps (by decide) hfrom
      | none =>
        cases handroid : kept.android_token with
        | none => exact hkeeps (by decide) hfrom
        | some android => exact hkeeps (by decide) (hkept.android_token android handroid)
  | none =>
    cases handroid : kept.android_token with
    | some android => exact hkeeps (by decide) (hkept.android_token android handroid)
    | none =>
      dsimp only
      split
      · next first rest hhint htokens =>
        rw [htokens] at h
        have hfirst := h first List.mem_cons_self
        split_ifs
        · refine browser_from (by decide) fun version hversion => ?_
          obtain ⟨second, hsecond, hget⟩ := Option.bind_eq_some_iff.mp hversion
          have hmem : second ∈ rest := List.mem_of_mem_head? hsecond
          exact get_version_from (h second (List.mem_cons_of_mem first hmem)).version version hget
        · exact ⟨.inr ⟨.inr ⟨hhint, hword hhint⟩, hfirst.tag⟩, create_res_of_version hfirst.version⟩
      · have hversion : ∀ v ∈ kept.version_token.bind Token.get_version, v.From ws := by
          intro version hversion
          obtain ⟨token, htoken, hget⟩ := Option.bind_eq_some_iff.mp hversion
          exact get_version_from (hkept.version_token token htoken).version version hget
        split_ifs
        · exact browser_from (by decide) hversion
        · exact browser_from (by decide) hversion
        · exact browser_from_none (by decide)
        · exact browser_from_none (by decide)
        · exact browser_from_none (by decide)

end Browser

/-- The browser of an agent is one of thirty-three, unless a word says that it is a bot or that it
comes through `CFNetwork`: then the name is a tag of the agent. A part of its version is a piece of
a word or one of six. -/
theorem browser_is_known (agent : Text) :
    BrowserFrom (words agent) (run agent) (parse_browser agent) := by
  unfold parse_browser
  dsimp only
  cases hbrowser : (run agent).possible_browser_token with
  | some token =>
    obtain ⟨hfrom, hname⟩ := (ran agent).browser token hbrowser
    refine ⟨?_, create_res_of_version hfrom.version⟩
    rcases hname with ⟨name, hname, htag⟩ | hbot
    · exact .inl ⟨name, List.mem_append_left _ hname, htag⟩
    · exact .inr ⟨.inl ⟨hbot, (ran agent).bot_word hbot⟩, hfrom.tag⟩
  | none =>
    have htokens : ∀ token ∈ (run agent).tokens, token.From (words agent) :=
      fun token htoken => (ran agent).token_from htoken
    have hnothing : KeptFrom (words agent) {} :=
      { android_token := fun _ h => nomatch h
        chrome_token := fun _ h => nomatch h
        version_token := fun _ h => nomatch h }
    have hscan : FoundFrom (words agent) (run agent)
        (scan_browser (run agent) {} (run agent).tokens) :=
      scan_browser_from hnothing htokens
    dsimp only
    cases hfound : scan_browser (run agent) {} (run agent).tokens with
    | inl found =>
      rw [hfound] at hscan
      exact hscan
    | inr kept =>
      rw [hfound] at hscan
      exact browser_of_kept_from hscan (ran agent).cfnetwork_word htokens

end statsig_rust.evaluation.user_agent_parsing
