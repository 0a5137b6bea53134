-- Where the tokens of a user agent come from: each is read from a few neighbouring words, no word
-- is read twice, and the tokens stand in the order of the words.
import StatsigCore.UserAgent.Tokenizer

namespace statsig_rust.evaluation.user_agent_parsing

open id_lists_adapter (Text)

/-! ## The window over a list of words -/

namespace WindowIter

/-- A window at the beginning of the words. -/
def walk (ws : List Text) : WindowIter := { iter := ws.drop 4, window := ws.take 4 }

theorem push_next_tail (ws : List Text) :
    push_next { walk ws with window := (walk ws).window.tail } = walk ws.tail := by
  match ws with
  | [] | [_] | [_, _] | [_, _, _] | [_, _, _, _] | _ :: _ :: _ :: _ :: _ :: _ => rfl

theorem new_eq (input : Text) : new input = walk (words input) := by
  unfold new
  match words input with
  | [] | [_] | [_, _] | [_, _, _] | [_, _, _, _] | _ :: _ :: _ :: _ :: _ :: _ => rfl

@[simp] theorem slide_walk (ws : List Text) (n : Nat) :
    (walk ws).slide_window_by n = walk (ws.drop n) := by
  induction n generalizing ws with
  | zero => rfl
  | succ n ih =>
    unfold slide_window_by
    dsimp only
    rw [push_next_tail, ih, List.drop_tail]

@[simp] theorem is_empty_walk (ws : List Text) : (walk ws).is_empty = ws.isEmpty := by
  cases ws <;> rfl

/-- A window that is not at its end shows the words themselves. -/
theorem window_walk (ws : List Text) {i : Nat} (hi : i < 4) : (walk ws).window[i]? = ws[i]? :=
  List.getElem?_take_of_lt hi

end WindowIter

open WindowIter (walk)

/-! ## Pieces of words -/

/-- A text that the words have as a piece of one of them. -/
def PieceOf (ws : List Text) (text : Text) : Prop := ∃ w ∈ ws, text <:+: w

theorem PieceOf.mono {ws ws' : List Text} {text : Text} (h : PieceOf ws text)
    (hsub : ∀ w ∈ ws, w ∈ ws') : PieceOf ws' text := by
  obtain ⟨w, hw, hinside⟩ := h
  exact ⟨w, hsub w hw, hinside⟩

theorem PieceOf.piece {ws : List Text} {text piece : Text} (h : PieceOf ws text)
    (hpiece : piece <:+: text) : PieceOf ws piece := by
  obtain ⟨w, hw, hinside⟩ := h
  exact ⟨w, hw, hpiece.trans hinside⟩

theorem trim_eq_some {s : Option Text} {trimmed : Text} (h : trim_invalid_chars s = some trimmed) :
    ∃ text, s = some text ∧ trimmed <:+: text := by
  unfold trim_invalid_chars at h
  cases s with
  | none => cases h
  | some text =>
    refine ⟨text, rfl, ?_⟩
    have hinside : (text.dropWhile is_invalid).rdropWhile is_invalid <:+: text :=
      (List.rdropWhile_prefix _ _).isInfix.trans (List.dropWhile_suffix _).isInfix
    dsimp only [Option.map_some] at h
    split at h
    · cases h
    · cases h
      exact hinside

theorem before_is_first (pattern text : Text) : before pattern text <+: text := by
  induction text with
  | nil => exact List.prefix_rfl
  | cons c text ih =>
    unfold before
    split
    · exact List.nil_prefix
    · exact List.cons_prefix_cons.mpr ⟨rfl, ih⟩

theorem second_part_inside (text : Text) (pattern : String) : second_part text pattern <:+: text :=
  (before_is_first _ _).isInfix.trans (List.drop_suffix _ _).isInfix

theorem split_once_inside {text tag version : Text} (h : split_once text = some (tag, version)) :
    tag <:+: text ∧ version <:+: text := by
  unfold split_once at h
  dsimp only at h
  split at h
  · cases h
  · next c rest hdrop =>
    cases h
    refine ⟨(List.takeWhile_prefix _).isInfix, ?_⟩
    exact ((List.suffix_cons c _).trans (hdrop ▸ List.dropWhile_suffix _)).isInfix

/-! ## One turn -/

/-- The tags that the branches give by name. -/
def TAGS : List String :=
  ["ATV OS X", "Mac OS X", "iOS", "iPad", "iPhone", "CPU OS", "Chrome OS", "Chromecast",
    "PlayStation", "Android", "Windows Phone", "Windows", "IE", "Yahoo! Slurp", "Red Hat", "Ubuntu",
    "Mobile", "Linux", "NetFront NX", "Better Uptime Bot", "Radius Compilance Bot", "AdsBot-Google",
    "Uptime Monitoring Bot", "Kindle", "Firefox iOS", "Edge Mobile", "Chrome Mobile iOS", "Google",
    "YisouSpider", "Edge", "Opera", "Samsung Internet", "HuaweiBrowser", "ChatGPT-User",
    "OAI-SearchBot", "Electron", "IE Mobile", "Safari"]

/-- The operating systems that a token can stand for. -/
def OS_TAGS : List String :=
  ["Mac OS X", "iOS", "Chrome OS", "Chromecast", "Android", "Windows Phone", "Windows", "Red Hat",
    "Ubuntu", "Kindle"]

/-- The browsers that a possible token can stand for, but for the bots. -/
def BROWSER_TAGS : List String :=
  ["IE", "Kindle", "Firefox iOS", "Edge Mobile", "Chrome Mobile iOS", "Google", "YisouSpider",
    "Samsung Internet", "ChatGPT-User", "OAI-SearchBot", "NetFront NX", "Electron", "IE Mobile"]

def Named (names : List String) (text : Text) : Prop := ∃ name ∈ names, text = name.toList

/-- The version of a token is a piece of one of these words. -/
def VersionFrom (ws : List Text) (version : Option Text) : Prop :=
  ∀ v ∈ version, v = "XP".toList ∨ PieceOf ws v

/-- A tag that a branch gives by name, or a piece of a word. No token is made of `CFNetwork`. -/
def TagFrom (ws : List Text) (tag : Text) : Prop :=
  Named TAGS tag ∨ PieceOf ws tag ∧ tag ≠ "CFNetwork".toList

/-- A token that is read from these words. -/
structure Token.From (ws : List Text) (token : Token) : Prop where
  tag : TagFrom ws token.tag
  version : VersionFrom ws token.version

/-- One of these words makes it a bot's agent: it names one, or begins the name of one. -/
def SaysBot (ws : List Text) : Prop :=
  ∃ text, PieceOf ws text ∧
    (contains text "Bot" ∨ contains text "bot" ∨ contains text "crawler" ∨
      contains text "Crawler" ∨ Named ["Better", "Radius", "Uptime"] text)

/-- What a turn does that reads these words: it adds one token or none, and the possible tokens stay
or are read from the words, and so are the signs of a bot and of `CFNetwork`. -/
structure Reads (ws : List Text) (result result' : TokenizerResult) : Prop where
  tokens : (result'.tokens = result.tokens ∧ result'.position = result.position) ∨
    ∃ token, token.From ws ∧ token.position = result.position ∧
      result'.tokens = result.tokens ++ [token] ∧ result'.position = result.position + 1
  os : result'.possible_os_token = result.possible_os_token ∨
    ∃ token, result'.possible_os_token = some token ∧ Named OS_TAGS token.tag ∧
      VersionFrom ws token.version
  browser : result'.possible_browser_token = result.possible_browser_token ∨
    ∃ token, result'.possible_browser_token = some token ∧ token.From ws ∧
      (Named BROWSER_TAGS token.tag ∨ result'.bot_detected)
  bot : result.bot_detected → result'.bot_detected
  bot_word : result'.bot_detected → result.bot_detected ∨ SaysBot ws
  cfnetwork_word : result'.cfnetwork_hint → result.cfnetwork_hint ∨ PieceOf ws "CFNetwork".toList

section Reads

variable {ws : List Text} {result result' : TokenizerResult} {tag : Text} {version : Option Text}

theorem Reads.refl (ws : List Text) (result : TokenizerResult) : Reads ws result result :=
  ⟨.inl ⟨rfl, rfl⟩, .inl rfl, .inl rfl, id, .inl, .inl⟩

theorem version_none (ws : List Text) : VersionFrom ws none := fun _ h => nomatch h

theorem reads_add_tag (htag : TagFrom ws tag) (hversion : VersionFrom ws version) :
    Reads ws result (result.add_tag tag version) :=
  ⟨.inr ⟨result.token tag version, ⟨htag, hversion⟩, rfl, rfl, rfl⟩, .inl rfl, .inl rfl, id, .inl,
    .inl⟩

theorem possible_os_cases (result : TokenizerResult) (tag : Text) (version : Option Text) :
    result.add_possible_os_tag_impl tag version = result ∨
      result.add_possible_os_tag_impl tag version =
        { result with possible_os_token := some (result.token tag version) } := by
  unfold TokenizerResult.add_possible_os_tag_impl
  split
  · exact .inl rfl
  · split
    · exact .inl rfl
    · exact .inr rfl

theorem possible_browser_cases (result : TokenizerResult) (tag : Text) (version : Option Text) :
    result.add_possible_browser_tag_impl tag version = result ∨
      result.add_possible_browser_tag_impl tag version =
        { result with possible_browser_token := some (result.token tag version) } := by
  unfold TokenizerResult.add_possible_browser_tag_impl
  split
  · exact .inl rfl
  · exact .inr rfl

theorem reads_add_possible_os_tag (htag : Named TAGS tag) (hos : Named OS_TAGS tag)
    (hversion : VersionFrom ws version) :
    Reads ws result (result.add_possible_os_tag tag version) := by
  have hadd : Reads ws (result.add_possible_os_tag_impl tag version)
      ((result.add_possible_os_tag_impl tag version).add_tag tag version) :=
    reads_add_tag (.inl htag) hversion
  unfold TokenizerResult.add_possible_os_tag
  rcases possible_os_cases result tag version with h | h
  · rw [h] at hadd ⊢
    exact hadd
  · rw [h] at hadd ⊢
    exact ⟨hadd.tokens, .inr ⟨_, rfl, hos, hversion⟩, .inl rfl, id, .inl, .inl⟩

theorem named_of_browser_tag (h : Named BROWSER_TAGS tag) : Named TAGS tag := by
  have hsub : ∀ name ∈ BROWSER_TAGS, name ∈ TAGS := by decide
  obtain ⟨name, hname, htag⟩ := h
  exact ⟨name, hsub name hname, htag⟩

theorem reads_add_possible_browser_tag (hbrowser : Named BROWSER_TAGS tag)
    (hversion : VersionFrom ws version) :
    Reads ws result (result.add_possible_browser_tag tag version) := by
  have htag := named_of_browser_tag hbrowser
  have hadd : Reads ws (result.add_possible_browser_tag_impl tag version)
      ((result.add_possible_browser_tag_impl tag version).add_tag tag version) :=
    reads_add_tag (.inl htag) hversion
  unfold TokenizerResult.add_possible_browser_tag
  rcases possible_browser_cases result tag version with h | h
  · rw [h] at hadd ⊢
    exact hadd
  · rw [h] at hadd ⊢
    exact ⟨hadd.tokens, .inl rfl, .inr ⟨_, rfl, ⟨.inl htag, hversion⟩, .inl hbrowser⟩, id, .inl,
      .inl⟩

theorem reads_add_possible_browser_tag_for_bot (hbot : SaysBot ws) (htag : TagFrom ws tag)
    (hversion : VersionFrom ws version) :
    Reads ws result (result.add_possible_browser_tag_for_bot tag version) := by
  unfold TokenizerResult.add_possible_browser_tag_for_bot
  split
  · exact Reads.refl _ _
  · exact ⟨.inl ⟨rfl, rfl⟩, .inl rfl, .inr ⟨_, rfl, ⟨htag, hversion⟩, .inr rfl⟩, fun _ => rfl,
      fun _ => .inr hbot, .inl⟩

/-- What comes after a step that adds no token. -/
theorem Reads.after {start : TokenizerResult} (hstart : Reads ws result start)
    (htokens : start.tokens = result.tokens) (hposition : start.position = result.position)
    (h : Reads ws start result') : Reads ws result result' := by
  refine ⟨?_, ?_, ?_, fun hbot => h.bot (hstart.bot hbot),
    fun hbot => (h.bot_word hbot).elim hstart.bot_word .inr,
    fun hhint => (h.cfnetwork_word hhint).elim hstart.cfnetwork_word .inr⟩
  · rw [← htokens, ← hposition]
    exact h.tokens
  · rcases h.os with hos | hos
    · rw [hos]
      exact hstart.os
    · exact .inr hos
  · rcases h.browser with hsame | hset
    · rw [hsame]
      rcases hstart.browser with hsame' | ⟨token, htoken, hfrom, hname⟩
      · exact .inl hsame'
      · exact .inr ⟨token, htoken, hfrom, hname.imp_right h.bot⟩
    · exact .inr hset

/-- A hint does not count as reading. -/
theorem Reads.of_hint {start : TokenizerResult} (h : Reads ws start result')
    (htokens : start.tokens = result.tokens) (hposition : start.position = result.position)
    (hos : start.possible_os_token = result.possible_os_token)
    (hbrowser : start.possible_browser_token = result.possible_browser_token)
    (hbot : start.bot_detected = result.bot_detected)
    (hcfnetwork : start.cfnetwork_hint = result.cfnetwork_hint) : Reads ws result result' :=
  .after ⟨.inl ⟨htokens, hposition⟩, .inl hos, .inl hbrowser, fun h => hbot ▸ h,
    fun h => .inl (hbot ▸ h), fun h => .inl (hcfnetwork ▸ h)⟩ htokens hposition h

end Reads

/-! ## One turn over the words -/

/-- The turn takes some of the next four words, and reads no others. -/
def Turned (ws : List Text) (result : TokenizerResult) (next : WindowIter × TokenizerResult) :
    Prop :=
  ∃ n, 0 < n ∧ n ≤ 4 ∧ next.1 = walk (ws.drop n) ∧ Reads (ws.take n) result next.2

section Turned

variable {ws : List Text} {result result' : TokenizerResult} {win : WindowIter}

theorem Turned.of (n : Nat) (hpos : 0 < n) (hle : n ≤ 4) (hwin : win = walk (ws.drop n))
    (h : Reads (ws.take n) result result') : Turned ws result (win, result') :=
  ⟨n, hpos, hle, hwin, h⟩

theorem Turned.ite {c : Prop} [Decidable c] {next next' : WindowIter × TokenizerResult}
    (h : c → Turned ws result next) (h' : ¬c → Turned ws result next') :
    Turned ws result (if c then next else next') := by
  by_cases hc : c
  · rw [if_pos hc]
    exact h hc
  · rw [if_neg hc]
    exact h' hc

theorem named {names : List String} {name : String} (h : name ∈ names) :
    Named names name.toList :=
  ⟨name, h, rfl⟩

theorem word_piece {i n : Nat} {text : Text} (hi : i < n) (hn : n ≤ 4)
    (h : trim_invalid_chars (walk ws).window[i]? = some text) : PieceOf (ws.take n) text := by
  obtain ⟨word, hword, hinside⟩ := trim_eq_some h
  rw [WindowIter.window_walk ws (by omega)] at hword
  rw [← List.getElem?_take_of_lt hi] at hword
  exact ⟨word, List.mem_of_getElem? hword, hinside⟩

theorem VersionFrom.of_word {i n : Nat} {version : Option Text} (hi : i < n) (hn : n ≤ 4)
    (h : trim_invalid_chars (walk ws).window[i]? = version) : VersionFrom (ws.take n) version := by
  intro v hv
  cases hv
  exact .inr (word_piece hi hn h)

/-- How many words are gone for the version. -/
def gone (version : Option Text) : Nat := version.toList.length

theorem gone_le_one (version : Option Text) : gone version ≤ 1 := by
  cases version with
  | none => exact Nat.zero_le 1
  | some _ => exact le_rfl

/-- The version was taken from the word at the index, or there is none. -/
def ReadFrom (ws : List Text) (i : Nat) (version : Option Text) : Prop :=
  ∀ n, i < n → n ≤ 4 → VersionFrom (ws.take n) version

theorem consume_walk (ws : List Text) (i : Nat) : ∃ version, ReadFrom ws i version ∧
    consume_if_numeric (walk ws) (trim_invalid_chars (walk ws).window[i]?) =
      (version, walk (ws.drop (gone version))) := by
  unfold consume_if_numeric
  cases hword : trim_invalid_chars (walk ws).window[i]? with
  | none => exact ⟨none, fun n _ _ => version_none _, rfl⟩
  | some version =>
    split
    · refine ⟨some version, fun n hin hn => .of_word hin hn hword, ?_⟩
      rw [WindowIter.slide_walk]
      rfl
    · exact ⟨none, fun n _ _ => version_none _, rfl⟩

/-- A turn that takes a version from the word at the index and then slides by so many words. -/
theorem ReadFrom.turned {i : Nat} {version : Option Text} (h : ReadFrom ws i version) (n : Nat)
    (hpos : 0 < n) (hi : i ≤ n) (hn : n ≤ 3) (hwin : win = walk ((ws.drop (gone version)).drop n))
    (hreads : ∀ {k}, VersionFrom (ws.take k) version → Reads (ws.take k) result result') :
    Turned ws result (win, result') := by
  have hle := gone_le_one version
  refine .of (gone version + n) (by omega) (by omega) ?_ (hreads ?_)
  · rw [hwin, List.drop_drop]
  · cases version with
    | none => exact version_none _
    | some version =>
      have hgone : gone (some version) = 1 := rfl
      exact h _ (by omega) (by omega)

end Turned

theorem Reads.ite {c : Prop} [Decidable c] {ws : List Text} {result next next' : TokenizerResult}
    (h : c → Reads ws result next) (h' : ¬c → Reads ws result next') :
    Reads ws result (if c then next else next') := by
  by_cases hc : c
  · rw [if_pos hc]
    exact h hc
  · rw [if_neg hc]
    exact h' hc

theorem reads_override {ws : List Text} (result : TokenizerResult) {name : String}
    (h : name ∈ OS_TAGS) :
    Reads ws result (result.add_possible_os_tag_override_existing name.toList none) :=
  ⟨.inl ⟨rfl, rfl⟩, .inr ⟨_, rfl, named h, version_none _⟩, .inl rfl, id, .inl, .inl⟩

/-- On a Mac that is iOS the possible system changes first, and then the browser is added. -/
theorem reads_mac_is_ios {ws : List Text} {result : TokenizerResult} {tag : Text}
    {version : Option Text} (htag : Named BROWSER_TAGS tag) (hversion : VersionFrom ws version) :
    Reads ws result (result.mac_is_ios.add_possible_browser_tag tag version) := by
  have hadd (start : TokenizerResult) :
      Reads ws start (start.add_possible_browser_tag tag version) :=
    reads_add_possible_browser_tag htag hversion
  unfold TokenizerResult.mac_is_ios
  split
  · split
    · exact .after (reads_override result (by decide)) rfl rfl (hadd _)
    · exact hadd result
  · exact hadd result

theorem reads_kindle {ws : List Text} (result : TokenizerResult) {version : Option Text}
    (hversion : VersionFrom ws version) :
    Reads ws result (result.add_possible_os_and_browser_tag "Kindle".toList version) := by
  have hadd (start : TokenizerResult) :
      Reads ws start (start.add_possible_browser_tag "Kindle".toList version) :=
    reads_add_possible_browser_tag (named (by decide)) hversion
  unfold TokenizerResult.add_possible_os_and_browser_tag
  rcases possible_os_cases result "Kindle".toList version with h | h
  · rw [h]
    exact hadd result
  · rw [h]
    have hset : Reads ws result
        { result with possible_os_token := some (result.token "Kindle".toList version) } :=
      ⟨.inl ⟨rfl, rfl⟩, .inr ⟨_, rfl, named (by decide), hversion⟩, .inl rfl, id, .inl, .inl⟩
    exact hset.after rfl rfl (hadd _)

/-- The other words give a tag and a version of their own. -/
theorem reads_add_rest {ws : List Text} (result : TokenizerResult) {curr : Text}
    (hcurr : PieceOf ws curr) : Reads ws result (add_rest result curr) := by
  have hversion : VersionFrom ws (trim_invalid_chars ((split_once curr).map (·.2))) := by
    intro version h
    obtain ⟨text, htext, hinside⟩ := trim_eq_some h
    obtain ⟨parts, hparts, rfl⟩ := Option.map_eq_some_iff.mp htext
    exact .inr (hcurr.piece (hinside.trans (split_once_inside hparts).2))
  have htag : PieceOf ws ((trim_invalid_chars ((split_once curr).map (·.1))).getD curr) := by
    cases h : trim_invalid_chars ((split_once curr).map (·.1)) with
    | none => exact hcurr
    | some tag =>
      obtain ⟨text, htext, hinside⟩ := trim_eq_some h
      obtain ⟨parts, hparts, rfl⟩ := Option.map_eq_some_iff.mp htext
      exact hcurr.piece (hinside.trans (split_once_inside hparts).1)
  have hbrowser {start : TokenizerResult} {name : String} (h : name ∈ BROWSER_TAGS) :
      Reads ws start
        (start.add_possible_browser_tag name.toList
          (trim_invalid_chars ((split_once curr).map (·.2)))) :=
    reads_add_possible_browser_tag (named h) hversion
  have hadd {start : TokenizerResult} {name : String} (h : name ∈ TAGS) :
      Reads ws start
        (start.add_tag name.toList (trim_invalid_chars ((split_once curr).map (·.2)))) :=
    reads_add_tag (.inl (named h)) hversion
  unfold add_rest
  dsimp only
  refine .ite (fun _ => reads_kindle result hversion) fun _ => ?_
  refine .ite (fun _ => hbrowser (by decide)) fun _ => ?_
  refine .ite (fun _ => reads_mac_is_ios (named (by decide)) hversion) fun _ => ?_
  refine .ite
    (fun _ => (reads_mac_is_ios (named (by decide)) hversion).of_hint rfl rfl rfl rfl rfl rfl)
    fun _ => ?_
  refine .ite (fun _ => hbrowser (by decide)) fun _ => ?_
  refine .ite (fun _ => hbrowser (by decide)) fun _ => ?_
  refine .ite (fun _ => hadd (by decide)) fun _ => ?_
  refine .ite (fun _ => hadd (by decide)) fun _ => ?_
  refine .ite (fun _ => hbrowser (by decide)) fun _ => ?_
  refine .ite (fun _ => (hadd (by decide)).of_hint rfl rfl rfl rfl rfl rfl) fun _ => ?_
  refine .ite (fun _ => hbrowser (by decide)) fun _ => ?_
  refine .ite (fun _ => hbrowser (by decide)) fun _ => ?_
  refine .ite (fun _ => hbrowser (by decide)) fun _ => ?_
  refine .ite (fun _ => hbrowser (by decide)) fun _ => ?_
  refine .ite (fun _ => hbrowser (by decide)) fun _ => ?_
  refine .ite (fun hbot => ?_) fun _ => ?_
  · refine reads_add_possible_browser_tag_for_bot ⟨_, htag, ?_⟩ (.inr ⟨htag, fun hcf => ?_⟩)
      hversion
    · simp only [Bool.or_eq_true] at hbot
      tauto
    · rw [hcf] at hbot
      exact absurd hbot (by decide)
  refine .ite (fun _ => (hadd (by decide)).of_hint rfl rfl rfl rfl rfl rfl) fun _ => ?_
  refine .ite (fun _ => (hadd (by decide)).of_hint rfl rfl rfl rfl rfl rfl) fun _ => ?_
  refine .ite (fun hcf => ?_) fun hcf => ?_
  · exact ⟨.inl ⟨rfl, rfl⟩, .inl rfl, .inl rfl, id, .inl, fun _ => .inr (hcf ▸ htag)⟩
  refine .ite (fun _ => (Reads.refl ws _).of_hint rfl rfl rfl rfl rfl rfl) fun _ => ?_
  refine .ite (fun _ => reads_override result (by decide)) fun _ => ?_
  exact reads_add_tag (.inr ⟨htag, hcf⟩) hversion

theorem turned_skip (ws : List Text) (result : TokenizerResult) {n : Nat} (hpos : 0 < n)
    (hle : n ≤ 4) : Turned ws result ((walk ws).slide_window_by n, result) :=
  .of n hpos hle (WindowIter.slide_walk ws n) (Reads.refl _ _)

/-- The rest of a word that begins with the name of the device. -/
theorem reads_device {ws : List Text} (result : TokenizerResult) {name : String} {curr : Text}
    (h : name ∈ TAGS) (hcurr : PieceOf ws curr) :
    Reads ws result
      (result.add_tag name.toList (trim_invalid_chars (some (second_part curr name)))) := by
  refine reads_add_tag (.inl (named h)) fun version hversion => ?_
  obtain ⟨text, htext, hinside⟩ := trim_eq_some hversion
  cases htext
  exact .inr (hcurr.piece (hinside.trans (second_part_inside curr name)))

/-- The version of Chrome OS is in the next word but one if the next one has none. -/
theorem turned_chrome_os (ws : List Text) (result : TokenizerResult) :
    Turned ws result
      (let word (i : Nat) := trim_invalid_chars (walk ws).window[i]?
      let (version, win) := consume_if_numeric (walk ws) (word 1)
      let (version, win) := match version with
        | some version => (some version, win)
        | none => consume_if_numeric (win.slide_window_by 1) (word 2)
      ((win.slide_window_by 0).slide_window_by 1,
        result.add_possible_os_tag "Chrome OS".toList version)) := by
  have hos {n : Nat} {version : Option Text} (hversion : VersionFrom (ws.take n) version) :
      Reads (ws.take n) result (result.add_possible_os_tag "Chrome OS".toList version) :=
    reads_add_possible_os_tag (named (by decide)) (named (by decide)) hversion
  obtain ⟨version, hread, hconsume⟩ := consume_walk ws 1
  dsimp only
  rw [hconsume]
  cases version with
  | some version => exact hread.turned 1 (by omega) (by omega) (by omega) (by simp) hos
  | none =>
    have hgone : gone none = 0 := rfl
    dsimp only
    unfold consume_if_numeric
    split
    · refine .of 3 (by omega) (by omega) (by simp [hgone]) (hos ?_)
      exact .of_word (by omega) (by omega) rfl
    · exact .of 2 (by omega) (by omega) (by simp [hgone]) (hos (version_none _))

/-- The word after `NT` is the version of Windows, and `XP` is a version itself. -/
theorem turned_windows (ws : List Text) (result : TokenizerResult) :
    Turned ws result
      (let word (i : Nat) := trim_invalid_chars (walk ws).window[i]?
      let (version, win) :=
        if word 1 = some "NT".toList then
          let (version, win) := consume_if_numeric (walk ws) (word 2)
          (version, if version.isSome then win.slide_window_by 1 else win)
        else if (word 1).any (starts_with · "XP") then
          (some "XP".toList, (walk ws).slide_window_by 1)
        else consume_if_numeric (walk ws) (word 1)
      ((win.slide_window_by 0).slide_window_by 1,
        { result with windows_hint := true }.add_possible_os_tag "Windows".toList version)) := by
  have hos {n : Nat} {version : Option Text} (hversion : VersionFrom (ws.take n) version) :
      Reads (ws.take n) result
        ({ result with windows_hint := true }.add_possible_os_tag "Windows".toList version) :=
    (reads_add_possible_os_tag (named (by decide)) (named (by decide)) hversion).of_hint
      rfl rfl rfl rfl rfl rfl
  dsimp only
  split
  · obtain ⟨version, hread, hconsume⟩ := consume_walk ws 2
    rw [hconsume]
    cases version with
    | none =>
      have hgone : gone none = 0 := rfl
      exact .of 1 (by omega) (by omega) (by simp [hgone]) (hos (version_none _))
    | some version =>
      have hgone : gone (some version) = 1 := rfl
      exact .of 3 (by omega) (by omega) (by simp [hgone]) (hos (hread 3 (by omega) (by omega)))
  · split
    · refine .of 2 (by omega) (by omega) (by simp) (hos fun v hv => ?_)
      cases hv
      exact .inl rfl
    · obtain ⟨version, hread, hconsume⟩ := consume_walk ws 1
      rw [hconsume]
      exact hread.turned 1 (by omega) (by omega) (by omega) (by simp) hos

theorem turn_spec (ws : List Text) (result : TokenizerResult) :
    Turned ws result (turn (walk ws) result) := by
  unfold turn
  dsimp only
  split
  · exact turned_skip ws result (by omega) (by omega)
  next curr hcurr =>
  have hpiece {n : Nat} (hpos : 0 < n) (hn : n ≤ 4) : PieceOf (ws.take n) curr :=
    word_piece hpos hn hcurr
  have hadd {start : TokenizerResult} {n : Nat} {name : String} {version : Option Text}
      (h : name ∈ TAGS) (hversion : VersionFrom (ws.take n) version) :
      Reads (ws.take n) start (start.add_tag name.toList version) :=
    reads_add_tag (.inl (named h)) hversion
  have hos {start : TokenizerResult} {n : Nat} {name : String} {version : Option Text}
      (h : name ∈ TAGS) (h' : name ∈ OS_TAGS) (hversion : VersionFrom (ws.take n) version) :
      Reads (ws.take n) start (start.add_possible_os_tag name.toList version) :=
    reads_add_possible_os_tag (named h) (named h') hversion
  have hbot {name : String} (h : name ∈ TAGS)
      (hword : contains curr "Bot" ∨ Named ["Better", "Radius", "Uptime"] curr) :
      Turned ws result (((walk ws).slide_window_by 0).slide_window_by 1,
        result.add_possible_browser_tag_for_bot name.toList none) := by
    have hsays : SaysBot (ws.take 1) :=
      ⟨curr, hpiece (by omega) (by omega), hword.imp_right fun hname => .inr (.inr (.inr hname))⟩
    exact .of 1 (by omega) (by omega) (by simp)
      (reads_add_possible_browser_tag_for_bot hsays (.inl (named h)) (version_none _))
  have hios {n : Nat} {version : Option Text} (hversion : VersionFrom (ws.take n) version) :
      Reads (ws.take n) result
        { result.add_possible_os_tag "iOS".toList version with ios_hint := true } := by
    have hread : Reads (ws.take n) result (result.add_possible_os_tag "iOS".toList version) :=
      hos (by decide) (by decide) hversion
    exact ⟨hread.tokens, hread.os, hread.browser, hread.bot, hread.bot_word, hread.cfnetwork_word⟩
  -- one case for each branch of the loop, in its order
  refine .ite (fun _ => ?_) fun _ => ?_
  · exact .of 2 (by omega) (by omega) (by simp) (hadd (by decide) (version_none _))
  refine .ite (fun _ => ?_) fun _ => ?_
  · exact .of 4 (by omega) (by omega) (by simp) (Reads.refl _ _)
  refine .ite (fun _ => ?_) fun _ => ?_
  · obtain ⟨version, hread, hconsume⟩ := consume_walk ws 3
    rw [hconsume]
    exact hread.turned 3 (by omega) (by omega) (by omega) (by simp) fun hversion =>
      (hos (by decide) (by decide) hversion).of_hint rfl rfl rfl rfl rfl rfl
  refine .ite (fun _ => ?_) fun _ => ?_
  · obtain ⟨version, hread, hconsume⟩ := consume_walk ws 2
    rw [hconsume]
    exact hread.turned 3 (by omega) (by omega) (by omega) (by simp) fun hversion =>
      (hos (by decide) (by decide) hversion).of_hint rfl rfl rfl rfl rfl rfl
  refine .ite (fun _ => ?_) fun _ => ?_
  · obtain ⟨version, hread, hconsume⟩ := consume_walk ws 1
    rw [hconsume]
    exact hread.turned 2 (by omega) (by omega) (by omega) (by simp) hios
  refine .ite (fun _ => ?_) fun _ => ?_
  · obtain ⟨version, hread, hconsume⟩ := consume_walk ws 2
    rw [hconsume]
    exact hread.turned 2 (by omega) (by omega) (by omega) (by simp) (hos (by decide) (by decide))
  refine .ite (fun _ => ?_) fun _ => ?_
  · obtain ⟨version, hread, hconsume⟩ := consume_walk ws 1
    rw [hconsume]
    exact hread.turned 2 (by omega) (by omega) (by omega) (by simp) hios
  refine .ite (fun _ => ?_) fun _ => ?_
  · refine .of 1 (by omega) (by omega) (by simp) ?_
    exact (reads_device _ (by decide) (hpiece (by omega) (by omega))).of_hint rfl rfl rfl rfl rfl rfl
  refine .ite (fun _ => ?_) fun _ => ?_
  · refine .of 1 (by omega) (by omega) (by simp) ?_
    exact (reads_device _ (by decide) (hpiece (by omega) (by omega))).of_hint rfl rfl rfl rfl rfl rfl
  refine .ite (fun _ => ?_) fun _ => ?_
  · refine .of 1 (by omega) (by omega) (by simp) ?_
    exact (hadd (by decide) (version_none _)).of_hint rfl rfl rfl rfl rfl rfl
  refine .ite (fun _ => ?_) fun _ => ?_
  · obtain ⟨version, hread, hconsume⟩ := consume_walk ws 2
    rw [hconsume]
    exact hread.turned 2 (by omega) (by omega) (by omega) (by simp) (hadd (by decide))
  refine .ite (fun _ => turned_chrome_os ws result) fun _ => ?_
  refine .ite (fun _ => ?_) fun _ => ?_
  · exact .of 1 (by omega) (by omega) (by simp) (hos (by decide) (by decide) (version_none _))
  refine .ite (fun _ => ?_) fun _ => ?_
  · refine .of 1 (by omega) (by omega) (by simp) ?_
    exact (hadd (by decide) (version_none _)).of_hint rfl rfl rfl rfl rfl rfl
  refine .ite (fun _ => ?_) fun _ => ?_
  · obtain ⟨version, hread, hconsume⟩ := consume_walk ws 1
    rw [hconsume]
    exact hread.turned 1 (by omega) (by omega) (by omega) (by simp) (hos (by decide) (by decide))
  refine .ite (fun _ => ?_) fun _ => ?_
  · obtain ⟨version, hread, hconsume⟩ := consume_walk ws 2
    rw [hconsume]
    exact hread.turned 2 (by omega) (by omega) (by omega) (by simp) (hos (by decide) (by decide))
  refine .ite (fun _ => turned_windows ws result) fun _ => ?_
  refine .ite (fun _ => ?_) fun _ => ?_
  · obtain ⟨version, hread, hconsume⟩ := consume_walk ws 1
    rw [hconsume]
    exact hread.turned 1 (by omega) (by omega) (by omega) (by simp)
      (reads_add_possible_browser_tag (named (by decide)))
  refine .ite (fun _ => ?_) fun _ => ?_
  · exact .of 2 (by omega) (by omega) (by simp) (hadd (by decide) (version_none _))
  refine .ite (fun _ => ?_) fun _ => ?_
  · exact .of 2 (by omega) (by omega) (by simp) (hos (by decide) (by decide) (version_none _))
  refine .ite (fun _ => ?_) fun _ => ?_
  · obtain ⟨version, hread, hconsume⟩ := consume_walk ws 1
    rw [hconsume]
    exact hread.turned 1 (by omega) (by omega) (by omega) (by simp) (hos (by decide) (by decide))
  refine .ite (fun _ => ?_) fun _ => ?_
  · refine .of 1 (by omega) (by omega) (by simp) ?_
    exact (hadd (by decide) (version_none _)).of_hint rfl rfl rfl rfl rfl rfl
  refine .ite (fun _ => ?_) fun _ => ?_
  · refine .of 1 (by omega) (by omega) (by simp) ?_
    exact (hadd (by decide) (version_none _)).of_hint rfl rfl rfl rfl rfl rfl
  refine .ite (fun _ => ?_) fun _ => ?_
  · exact .of 2 (by omega) (by omega) (by simp) (hadd (by decide) (version_none _))
  refine .ite (fun _ => turned_skip ws result (by omega) (by omega)) fun _ => ?_
  refine .ite (fun hname => hbot (by decide) (.inr ⟨_, by decide, hname.1⟩)) fun _ => ?_
  refine .ite (fun hname => hbot (by decide) (.inr ⟨_, by decide, hname.1⟩)) fun _ => ?_
  refine .ite (fun hname => hbot (by decide) (.inl (hname ▸ by decide))) fun _ => ?_
  refine .ite (fun hname => hbot (by decide) (.inr ⟨_, by decide, hname.1⟩)) fun _ => ?_
  exact .of 1 (by omega) (by omega) (by simp)
    (reads_add_rest result (hpiece (by omega) (by omega)))

/-! ## The whole agent -/

/-- The words that one turn takes. -/
def OfTurn (group : List Text) : Prop := group ≠ [] ∧ group.length ≤ 4

/-- The result of a run that is over these words so far: the words come in groups, one for each
turn, and the tokens are read from some of the groups. -/
structure RanOver (ws : List Text) (result : TokenizerResult) : Prop where
  tokens : ∃ turns groups : List (List Text), turns.flatten = ws ∧ (∀ group ∈ turns, OfTurn group) ∧
    groups.Sublist turns ∧ List.Forall₂ Token.From groups result.tokens
  position : result.position = result.tokens.length
  positions : result.tokens.map (·.position) = List.range result.tokens.length
  os : ∀ token ∈ result.possible_os_token, Named OS_TAGS token.tag ∧ VersionFrom ws token.version
  browser : ∀ token ∈ result.possible_browser_token, token.From ws ∧
    (Named BROWSER_TAGS token.tag ∨ result.bot_detected)
  bot_word : result.bot_detected → SaysBot ws
  cfnetwork_word : result.cfnetwork_hint → PieceOf ws "CFNetwork".toList

section RanOver

variable {ws ws' group : List Text} {result result' : TokenizerResult}

theorem VersionFrom.mono {version : Option Text} (h : VersionFrom ws version)
    (hsub : ∀ w ∈ ws, w ∈ ws') : VersionFrom ws' version :=
  fun v hv => (h v hv).imp_right (·.mono hsub)

theorem Token.From.mono {token : Token} (h : token.From ws) (hsub : ∀ w ∈ ws, w ∈ ws') :
    token.From ws' :=
  ⟨h.tag.imp_right fun htag => ⟨htag.1.mono hsub, htag.2⟩, h.version.mono hsub⟩

theorem ran_over_nothing : RanOver [] {} :=
  { tokens := ⟨[], [], rfl, List.forall_mem_nil _, .slnil, .nil⟩
    position := rfl
    positions := rfl
    os := fun _ h => nomatch h
    browser := fun _ h => nomatch h
    bot_word := fun h => nomatch h
    cfnetwork_word := fun h => nomatch h }

theorem SaysBot.mono (h : SaysBot ws) (hsub : ∀ w ∈ ws, w ∈ ws') : SaysBot ws' := by
  obtain ⟨text, htext, hsays⟩ := h
  exact ⟨text, htext.mono hsub, hsays⟩

theorem forall₂_snoc {tokens : List Token} {groups : List (List Text)} {token : Token}
    (h : List.Forall₂ Token.From groups tokens) (htoken : token.From group) :
    List.Forall₂ Token.From (groups ++ [group]) (tokens ++ [token]) :=
  List.rel_append h (.cons htoken .nil)

theorem exists_group {tokens : List Token} {groups : List (List Text)}
    (h : List.Forall₂ Token.From groups tokens) {token : Token} (htoken : token ∈ tokens) :
    ∃ group ∈ groups, token.From group := by
  induction h with
  | nil => cases htoken
  | @cons group token' groups tokens hfrom _ ih =>
    rcases List.mem_cons.mp htoken with rfl | htoken
    · exact ⟨group, List.mem_cons_self, hfrom⟩
    · obtain ⟨other, hother, hfrom'⟩ := ih htoken
      exact ⟨other, List.mem_cons_of_mem group hother, hfrom'⟩

theorem RanOver.token_from (h : RanOver ws result) {token : Token}
    (htoken : token ∈ result.tokens) : token.From ws := by
  obtain ⟨turns, groups, rfl, -, hsub, hfrom⟩ := h.tokens
  obtain ⟨group, hgroup, hread⟩ := exists_group hfrom htoken
  exact hread.mono fun w hw => List.mem_flatten_of_mem (hsub.subset hgroup) hw

theorem RanOver.step (h : RanOver ws result) (hreads : Reads group result result')
    (hgroup : OfTurn group) : RanOver (ws ++ group) result' := by
  have hleft : ∀ w ∈ ws, w ∈ ws ++ group := fun w hw => List.mem_append_left group hw
  have hright : ∀ w ∈ group, w ∈ ws ++ group := fun w hw => List.mem_append_right ws hw
  have hos : ∀ token ∈ result'.possible_os_token,
      Named OS_TAGS token.tag ∧ VersionFrom (ws ++ group) token.version := by
    intro token htoken
    rcases hreads.os with hsame | ⟨token', hset, htag, hversion⟩
    · rw [hsame] at htoken
      exact ⟨(h.os token htoken).1, (h.os token htoken).2.mono hleft⟩
    · rw [hset] at htoken
      cases htoken
      exact ⟨htag, hversion.mono hright⟩
  have hbrowser : ∀ token ∈ result'.possible_browser_token, token.From (ws ++ group) ∧
      (Named BROWSER_TAGS token.tag ∨ result'.bot_detected) := by
    intro token htoken
    rcases hreads.browser with hsame | ⟨token', hset, hfrom, hname⟩
    · rw [hsame] at htoken
      obtain ⟨hfrom, hname⟩ := h.browser token htoken
      exact ⟨hfrom.mono hleft, hname.imp_right hreads.bot⟩
    · rw [hset] at htoken
      cases htoken
      exact ⟨hfrom.mono hright, hname⟩
  have hbot : result'.bot_detected → SaysBot (ws ++ group) := fun hdetected =>
    (hreads.bot_word hdetected).elim (fun hold => (h.bot_word hold).mono hleft) (·.mono hright)
  have hcfnetwork : result'.cfnetwork_hint → PieceOf (ws ++ group) "CFNetwork".toList :=
    fun hhint => (hreads.cfnetwork_word hhint).elim
      (fun hold => (h.cfnetwork_word hold).mono hleft) (·.mono hright)
  obtain ⟨turns, groups, hturns, hlens, hsub, hfrom⟩ := h.tokens
  have hflat : (turns ++ [group]).flatten = ws ++ group := by
    rw [List.flatten_append, List.flatten_singleton, hturns]
  have hlens' : ∀ other ∈ turns ++ [group], OfTurn other := by
    intro other hother
    rcases List.mem_append.mp hother with hother | hother
    · exact hlens other hother
    · rw [List.mem_singleton.mp hother]
      exact hgroup
  rcases hreads.tokens with ⟨htokens, hposition⟩ | ⟨token, htoken, hat, htokens, hposition⟩
  · refine ⟨⟨turns ++ [group], groups, hflat, hlens',
      hsub.trans (List.sublist_append_left turns [group]), ?_⟩, ?_, ?_, hos, hbrowser, hbot,
      hcfnetwork⟩
    · rw [htokens]
      exact hfrom
    · rw [hposition, htokens]
      exact h.position
    · rw [htokens]
      exact h.positions
  · refine ⟨⟨turns ++ [group], groups ++ [group], hflat, hlens', hsub.append_right [group], ?_⟩,
      ?_, ?_, hos, hbrowser, hbot, hcfnetwork⟩
    · rw [htokens]
      exact forall₂_snoc hfrom htoken
    · rw [hposition, htokens, List.length_append, h.position]
      rfl
    · rw [htokens, List.map_append, List.length_append, h.positions]
      simp [hat, h.position, List.range_succ]

/-- The loop goes over all the words, and stops. -/
theorem run_for_spec (turns : Nat) : ∀ {ws' : List Text} {result : TokenizerResult},
    RanOver ws result → ws'.length ≤ turns →
    (run_for turns (walk ws') result).1 = walk [] ∧
      RanOver (ws ++ ws') (run_for turns (walk ws') result).2 := by
  induction turns generalizing ws with
  | zero =>
    intro ws' result h hlen
    rw [List.eq_nil_of_length_eq_zero (Nat.le_zero.mp hlen), List.append_nil]
    exact ⟨rfl, h⟩
  | succ turns ih =>
    intro ws' result h hlen
    unfold run_for
    rw [WindowIter.is_empty_walk]
    split
    · next hempty =>
      rw [List.isEmpty_iff.mp hempty, List.append_nil]
      exact ⟨rfl, h⟩
    · next hempty =>
      obtain ⟨n, hpos, hle, hwin, hreads⟩ := turn_spec ws' result
      have hgroup : OfTurn (ws'.take n) := by
        constructor
        · rw [ne_eq, List.take_eq_nil_iff]
          rintro (rfl | rfl)
          · exact absurd hpos (lt_irrefl 0)
          · exact hempty rfl
        · rw [List.length_take]
          omega
      have hstep : RanOver (ws ++ ws'.take n) (turn (walk ws') result).2 := h.step hreads hgroup
      have hrest : (ws'.drop n).length ≤ turns := by
        rw [List.length_drop]
        omega
      have hrun := ih hstep hrest
      rw [List.append_assoc, List.take_append_drop] at hrun
      dsimp only
      rw [hwin]
      exact hrun

end RanOver

/-- The run over an agent ends after its last word. -/
theorem run_spec (agent : Text) :
    (run_for (words agent).length (.new agent) {}).1 = walk [] ∧
      RanOver (words agent) (run agent) := by
  unfold run
  rw [WindowIter.new_eq]
  exact run_for_spec (words agent).length ran_over_nothing le_rfl

/-- The words of an agent fall into groups of at most four in a row, and each token is read from a
group of its own, in the order of the words: no word is read twice. The tokens are numbered from 0.
The possible system is one of ten, and the possible browser has a name of its own or is a bot. -/
theorem tokens_are_read_in_order (agent : Text) :
    (run_for (words agent).length (.new agent) {}).1.is_empty ∧
      RanOver (words agent) (run agent) := by
  obtain ⟨hend, hran⟩ := run_spec agent
  exact ⟨by rw [hend]; rfl, hran⟩

end statsig_rust.evaluation.user_agent_parsing
