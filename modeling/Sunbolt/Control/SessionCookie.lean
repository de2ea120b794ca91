/- Module: Sunbolt/Control/SessionCookie
   scope: sunbolt-control/src/auth.rs, sunbolt-auth/src/lib.rs
   digest: Which cookies may stand in front of the session cookie for its token to be found. -/

import Sunbolt.Auth.RecoveryCodes
import Sunbolt.Control.AuthHandlers
import Sunbolt.Control.HeaderValues

set_option autoImplicit false
set_option relaxedAutoImplicit false

namespace Sunbolt.Control

open Sunbolt.Library
open Sunbolt.Audit (hexDigits isWhitespace)
open Sunbolt.Auth (AuthConfig mem_trim sessionCookieName trim trim_surrounded)

/-- `random_token` makes the token from some bytes. -/
def IsSessionToken (token : String) : Prop :=
  ∃ bytes : List UInt8, bytes.length = 32 ∧ token = String.ofList (hexDigits bytes)

/-- `session_token_from_headers`. -/
def sessionTokenOf (headers : HeaderMap) : Option String :=
  sessionTokenFromHeaders ((headers.get "cookie").bind toStr)

/-- What a browser sends back of a `Set-Cookie` header: all up to the attributes. -/
def cookiePair (setCookie : String) : List Char := setCookie.toList.takeWhile (· ≠ ';')

/-- The `Cookie` header of these entries. -/
def cookieHeaderOf (entries : List HeaderValue) : HeaderValue := [59].intercalate entries

/-- What stands before the first `=` of an entry, if it has one. -/
def entryName (entry : HeaderValue) : Option String :=
  (splitOnce (trim (byteText entry))).map (fun (name, _) => String.ofList name)

/-! Splitting at the first `=`. -/

theorem splitOnce_append {name : List Char} (h : '=' ∉ name) (value : List Char) :
    splitOnce (name ++ '=' :: value) = some (name, value) := by
  induction name with
  | nil => rfl
  | cons c rest ih =>
    rw [List.mem_cons, not_or] at h
    rw [List.cons_append, splitOnce, if_neg (Ne.symm h.1), ih h.2]
    rfl

theorem splitOnce_eq_none {text : List Char} : splitOnce text = none ↔ '=' ∉ text := by
  induction text with
  | nil => simp [splitOnce]
  | cons c rest ih =>
    rw [splitOnce, List.mem_cons, not_or]
    split_ifs with hc
    · simp [hc]
    · rw [Option.map_eq_none_iff, ih]
      exact (and_iff_right (Ne.symm hc)).symm

/-! The loop over the entries. -/

/-- An entry of another name is passed over, if it has a `=` at all. -/
theorem findSessionToken_cons {entry : List Char}
    (hname : (splitOnce (trim entry)).map (fun (name, _) => String.ofList name) ≠
      some sessionCookieName) (rest : List (List Char)) :
    findSessionToken (entry :: rest) = if '=' ∈ entry then findSessionToken rest else none := by
  have hmem : '=' ∈ trim entry ↔ '=' ∈ entry := mem_trim (by decide)
  rw [findSessionToken]
  cases hsplit : splitOnce (trim entry) with
  | none =>
    rw [if_neg (fun h => splitOnce_eq_none.mp hsplit (hmem.mpr h))]
  | some parts =>
    obtain ⟨name, value⟩ := parts
    rw [hsplit] at hname
    have hother : String.ofList name ≠ sessionCookieName := fun h => hname (by simp [h])
    have hequals : '=' ∈ entry := by
      by_contra habsent
      rw [splitOnce_eq_none.mpr (fun h => habsent (hmem.mp h))] at hsplit
      cases hsplit
    rw [if_pos hequals]
    dsimp only
    rw [if_neg hother]

/-- The entries in front of the session cookie. -/
theorem findSessionToken_append {before : List (List Char)}
    (hnames : ∀ entry ∈ before, (splitOnce (trim entry)).map
      (fun (name, _) => String.ofList name) ≠ some sessionCookieName)
    (rest : List (List Char)) :
    findSessionToken (before ++ rest) =
      if ∀ entry ∈ before, '=' ∈ entry then findSessionToken rest else none := by
  induction before with
  | nil => simp
  | cons entry others ih =>
    rw [List.cons_append, findSessionToken_cons (hnames entry (List.mem_cons_self ..)),
      ih (fun other hother => hnames other (List.mem_cons_of_mem _ hother))]
    simp only [List.mem_cons, forall_eq_or_imp]
    split_ifs with hentry hall hboth hboth <;> simp_all

/-! The header and its entries. -/

theorem byteText_cookieHeaderOf (entries : List HeaderValue) :
    byteText (cookieHeaderOf entries) = [';'].intercalate (entries.map byteText) := by
  induction entries with
  | nil => rfl
  | cons entry rest ih =>
    cases rest with
    | nil => simp [cookieHeaderOf]
    | cons next others =>
      rw [cookieHeaderOf] at ih ⊢
      rw [List.intercalate_cons_cons, List.map_cons, List.map_cons, List.intercalate_cons_cons,
        ← List.map_cons, ← ih]
      simp [byteText]

theorem visible_cookieHeaderOf (entries : List HeaderValue) :
    (cookieHeaderOf entries).all isVisibleAscii = true ↔
      ∀ entry ∈ entries, entry.all isVisibleAscii = true := by
  induction entries with
  | nil => simp [cookieHeaderOf]
  | cons entry rest ih =>
    cases rest with
    | nil => simp [cookieHeaderOf]
    | cons next others =>
      rw [List.forall_mem_cons, ← ih, cookieHeaderOf, cookieHeaderOf, List.intercalate_cons_cons,
        List.all_append, List.all_append, Bool.and_eq_true, Bool.and_eq_true]
      have hsemicolon : ([59] : List UInt8).all isVisibleAscii = true := by decide
      simp [hsemicolon]

/-- The handler sees the entries as they were put in, if it can read the header. -/
theorem sessionTokenOf_entries {headers : HeaderMap} {entries : List HeaderValue}
    (hne : entries ≠ []) (hentries : ∀ entry ∈ entries, 59 ∉ entry)
    (hget : headers.get "cookie" = some (cookieHeaderOf entries)) :
    sessionTokenOf headers =
      if ∀ entry ∈ entries, entry.all isVisibleAscii = true then
        findSessionToken (entries.map byteText)
      else none := by
  have hsemicolon : ∀ text ∈ entries.map byteText, ';' ∉ text := by
    intro text htext hmem
    obtain ⟨entry, hentry, rfl⟩ := List.mem_map.mp htext
    exact hentries entry hentry (mem_byteText.mp hmem)
  rw [sessionTokenOf, hget, Option.bind_some, toStr]
  simp only [visible_cookieHeaderOf]
  split_ifs with hvisible
  · rw [sessionTokenFromHeaders, Option.bind_some, String.toList_ofList, byteText_cookieHeaderOf,
      List.splitOn_intercalate _ hsemicolon (by simpa using hne)]
  · rfl

/-! The session cookie. -/

section Token

variable {token : String}

/-- What a token is made of. -/
theorem IsSessionToken.chars (h : IsSessionToken token) :
    ∀ c ∈ token.toList, c ∈ Sunbolt.Auth.recoveryCodeChars := by
  obtain ⟨bytes, -, rfl⟩ := h
  intro c hc
  rw [String.toList_ofList, hexDigits] at hc
  obtain ⟨byte, -, hdigit⟩ := List.mem_flatMap.mp hc
  simp only [List.mem_cons, List.not_mem_nil, or_false] at hdigit
  rcases hdigit with rfl | rfl
  · exact Sunbolt.Auth.hexDigit_mem _
  · exact Sunbolt.Auth.hexDigit_mem _

private theorem plain_tokenChars : ∀ c ∈ Sunbolt.Auth.recoveryCodeChars,
    isVisible c = true ∧ isWhitespace c = false ∧ c ≠ ';' :=
  forall_of_all (by decide)

theorem cookiePair_sessionCookieHeader (config : AuthConfig) (h : IsSessionToken token) :
    cookiePair (config.sessionCookieHeader token) =
      sessionCookieName.toList ++ '=' :: token.toList := by
  have hpair : ∀ c ∈ sessionCookieName.toList ++ '=' :: token.toList,
      decide (c ≠ ';') = true := by
    intro c hc
    rw [decide_eq_true_iff]
    rcases List.mem_append.mp hc with hname | hvalue
    · have hall : ∀ c ∈ sessionCookieName.toList, c ≠ ';' :=
        forall_of_all (by decide)
      exact hall c hname
    · rcases List.mem_cons.mp hvalue with rfl | htoken
      · decide
      · exact (plain_tokenChars c (h.chars c htoken)).2.2
  obtain ⟨attributes, hheader⟩ : ∃ attributes, (config.sessionCookieHeader token).toList =
      (sessionCookieName.toList ++ '=' :: token.toList) ++ ';' :: attributes := by
    have hequals : "=".toList = ['='] := rfl
    have hpath : "; Path=/; Max-Age=".toList = ';' :: " Path=/; Max-Age=".toList := by decide
    simp only [AuthConfig.sessionCookieHeader, AuthConfig.cookieHeader, String.toList_append,
      List.append_assoc, hequals, hpath, List.cons_append, List.nil_append]
    exact ⟨_, rfl⟩
  rw [cookiePair, hheader, List.takeWhile_append_of_pos hpair]
  simp

/-- The entry of the session cookie, with the blanks around it. -/
def sessionEntry (config : AuthConfig) (token : String) (front back : HeaderValue) : HeaderValue :=
  front ++ textBytes (String.ofList (cookiePair (config.sessionCookieHeader token))) ++ back

/-- It is read as the pair that it is made of. -/
theorem splitOnce_sessionEntry (config : AuthConfig) (h : IsSessionToken token)
    {front back : HeaderValue} (hblank : ∀ b ∈ front ++ back, b = 32 ∨ b = 9) :
    (sessionEntry config token front back).all isVisibleAscii = true ∧
    59 ∉ sessionEntry config token front back ∧
    splitOnce (trim (byteText (sessionEntry config token front back))) =
      some (sessionCookieName.toList, token.toList) := by
  have hpair : ∀ c ∈ sessionCookieName.toList ++ '=' :: token.toList,
      isVisible c = true ∧ isWhitespace c = false ∧ c ≠ ';' := by
    intro c hc
    have hname : ∀ c ∈ sessionCookieName.toList ++ ['='],
        isVisible c = true ∧ isWhitespace c = false ∧ c ≠ ';' :=
      forall_of_all (by decide)
    rw [List.append_cons, List.mem_append] at hc
    rcases hc with hc | hc
    · exact hname c hc
    · exact plain_tokenChars c (h.chars c hc)
  obtain ⟨hvisible, htext⟩ := @byteText_textBytes
    (String.ofList (cookiePair (config.sessionCookieHeader token))) (by
      rw [String.toList_ofList, cookiePair_sessionCookieHeader config h, List.all_eq_true]
      exact fun c hc => (hpair c hc).1)
  have htext := htext.trans
    (String.toList_ofList.trans (cookiePair_sessionCookieHeader config h))
  have hblanks : ∀ b ∈ front ++ back, isVisibleAscii b = true ∧ b ≠ 59 ∧
      isWhitespace (Char.ofNat b.toNat) = true := by
    intro b hb
    rcases hblank b hb with rfl | rfl <;> decide
  refine ⟨?_, ?_, ?_⟩
  · rw [sessionEntry, List.all_append, List.all_append, hvisible, Bool.and_true, Bool.and_eq_true,
      List.all_eq_true, List.all_eq_true]
    exact ⟨fun b hb => (hblanks b (List.mem_append_left _ hb)).1,
      fun b hb => (hblanks b (List.mem_append_right _ hb)).1⟩
  · intro hmem
    rw [sessionEntry, List.mem_append, List.mem_append] at hmem
    rcases hmem with (hfront | hmem) | hback
    · exact (hblanks 59 (List.mem_append_left _ hfront)).2.1 rfl
    · have hc := (mem_byteText (b := 59)).mpr hmem
      rw [htext] at hc
      exact (hpair _ hc).2.2 rfl
    · exact (hblanks 59 (List.mem_append_right _ hback)).2.1 rfl
  · have hsurround : byteText (sessionEntry config token front back) =
        byteText front ++ (sessionCookieName.toList ++ '=' :: token.toList) ++ byteText back := by
      rw [← htext]
      simp only [sessionEntry, byteText, List.map_append]
    have hspaces : ∀ bytes : HeaderValue, (∀ b ∈ bytes, b ∈ front ++ back) →
        ∀ c ∈ byteText bytes, isWhitespace c = true := by
      intro bytes hbytes c hc
      obtain ⟨b, hb, rfl⟩ := List.mem_map.mp hc
      exact (hblanks b (hbytes b hb)).2.2
    rw [hsurround, trim_surrounded (hspaces front (fun b hb => List.mem_append_left _ hb))
      (hspaces back (fun b hb => List.mem_append_right _ hb))
      (fun c hc => (hpair c (List.mem_of_mem_head? hc)).2.1)
      (fun c hc => (hpair c (List.mem_of_getLast? hc)).2.1)]
    exact splitOnce_append (by decide) token.toList

/-- The token is found exactly if the header is text, and every entry in front of the session
    cookie has a `=`. -/
theorem session_cookie_found_iff (config : AuthConfig) (issued : IsSessionToken token)
    {before after : List HeaderValue} {front back : HeaderValue}
    (blank : ∀ b ∈ front ++ back, b = 32 ∨ b = 9)
    (entries : ∀ entry ∈ before ++ after, 59 ∉ entry)
    (names : ∀ entry ∈ before, entryName entry ≠ some sessionCookieName) {headers : HeaderMap}
    (cookie : headers.get "cookie" =
      some (cookieHeaderOf (before ++ sessionEntry config token front back :: after))) :
    sessionTokenOf headers = some token ↔
      (∀ entry ∈ before ++ after, entry.all isVisibleAscii = true) ∧
        ∀ entry ∈ before, 61 ∈ entry := by
  obtain ⟨hvisible, hsemicolon, hsplit⟩ := splitOnce_sessionEntry config issued blank
  have hfound : ∀ rest, findSessionToken
      (byteText (sessionEntry config token front back) :: rest) = some token := by
    intro rest
    rw [findSessionToken, hsplit]
    simp
  have hnames : ∀ text ∈ before.map byteText, (splitOnce (trim text)).map
      (fun (name, _) => String.ofList name) ≠ some sessionCookieName := by
    intro text htext
    obtain ⟨entry, hentry, rfl⟩ := List.mem_map.mp htext
    exact names entry hentry
  have hequals : (∀ text ∈ before.map byteText, '=' ∈ text) ↔ ∀ entry ∈ before, 61 ∈ entry := by
    rw [List.forall_mem_map]
    exact forall₂_congr (fun entry _ => mem_byteText (b := 61))
  rw [sessionTokenOf_entries (by simp) ?_ cookie, List.map_append, List.map_cons,
    findSessionToken_append hnames, hfound]
  · have hall : (∀ entry ∈ before ++ sessionEntry config token front back :: after,
        entry.all isVisibleAscii = true) ↔
        ∀ entry ∈ before ++ after, entry.all isVisibleAscii = true := by
      simp only [List.forall_mem_append, List.forall_mem_cons, hvisible, true_and]
    simp only [hequals, hall]
    split_ifs with htext hbefore
    · exact iff_of_true rfl ⟨htext, hbefore⟩
    · exact iff_of_false nofun (fun h => hbefore h.2)
    · exact iff_of_false nofun (fun h => htext h.1)
  · intro entry hentry
    rcases List.mem_append.mp hentry with hmem | hmem
    · exact entries entry (List.mem_append_left _ hmem)
    · rcases List.mem_cons.mp hmem with rfl | hafter
      · exact hsemicolon
      · exact entries entry (List.mem_append_right _ hafter)

end Token

/-- A token of 64 zeros. -/
private def zeroToken : String := String.ofList (hexDigits (List.replicate 32 0))

private theorem isSessionToken_zeroToken : IsSessionToken zeroToken :=
  ⟨List.replicate 32 0, List.length_replicate, rfl⟩

/-- An entry with a `=` in its value stands in front of the session cookie. -/
theorem session_cookie_found_iff_themed :
    sessionTokenOf [("cookie", textBytes ("theme=a=b; sunbolt_session=" ++ zeroToken))] =
      some zeroToken := by
  have happend : ∀ front back : List Char, Utf8Lossy.encode (front ++ back) =
      Utf8Lossy.encode front ++ Utf8Lossy.encode back := fun _ _ => List.flatMap_append
  have hfront : Utf8Lossy.encode "theme=a=b; sunbolt_session=".toList =
      textBytes "theme=a=b" ++ [59, 32] ++
        Utf8Lossy.encode (sessionCookieName.toList ++ ['=']) := by
    decide +kernel
  have hentry : sessionEntry .default zeroToken [32] [] =
      32 :: Utf8Lossy.encode (sessionCookieName.toList ++ '=' :: zeroToken.toList) := by
    rw [sessionEntry, cookiePair_sessionCookieHeader .default isSessionToken_zeroToken, textBytes,
      String.toList_ofList, List.append_nil]
    rfl
  have hheader : textBytes ("theme=a=b; sunbolt_session=" ++ zeroToken) =
      cookieHeaderOf
        ([textBytes "theme=a=b"] ++ sessionEntry .default zeroToken [32] [] :: []) := by
    rw [hentry, List.append_cons sessionCookieName.toList, happend, textBytes,
      String.toList_append, happend, hfront]
    simp [cookieHeaderOf, List.intercalate_cons_cons]
  have hget : HeaderMap.get
      [("cookie", textBytes ("theme=a=b; sunbolt_session=" ++ zeroToken))] "cookie" =
      some (textBytes ("theme=a=b; sunbolt_session=" ++ zeroToken)) := by
    simp [HeaderMap.get]
  refine (@session_cookie_found_iff zeroToken .default isSessionToken_zeroToken
    [textBytes "theme=a=b"] [] [32] [] (by decide +kernel) (by decide +kernel)
    (by decide +kernel) _ (hget.trans (congrArg some hheader))).mpr ?_
  decide +kernel

/-- An entry without a `=` hides the session cookie. -/
theorem session_cookie_hidden : IsSessionToken zeroToken ∧
    59 ∉ textBytes "consent" ∧ entryName (textBytes "consent") ≠ some sessionCookieName ∧
    sessionTokenOf [("cookie", cookieHeaderOf [textBytes "consent",
      sessionEntry .default zeroToken [32] []])] = none := by
  have hconsent : 59 ∉ textBytes "consent" ∧
      entryName (textBytes "consent") ≠ some sessionCookieName ∧
      '=' ∉ byteText (textBytes "consent") := by
    decide +kernel
  obtain ⟨hsemicolon, hname, hequals⟩ := hconsent
  have hentry :=
    @splitOnce_sessionEntry zeroToken .default isSessionToken_zeroToken [32] [] (by simp)
  refine ⟨isSessionToken_zeroToken, hsemicolon, hname, ?_⟩
  rw [sessionTokenOf_entries (List.cons_ne_nil _ _) (by simp [hsemicolon, hentry.2.1]) rfl]
  split_ifs with hvisible
  · rw [List.map_cons, findSessionToken_cons hname, if_neg hequals]
  · rfl

end Sunbolt.Control
