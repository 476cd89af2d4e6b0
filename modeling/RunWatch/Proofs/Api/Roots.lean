import Mathlib.Data.List.DropRight
import RunWatch.Api.Settings

/-!
# Root addresses

A root is put together from the base address, the prefix and the version, each without the slashes at its ends and left
out if nothing remains.  So the named segments of a root are those of its three parts (`namedSegments_root`), and it
never ends with a slash (`getLast?_root`).  `Settings.check` looks at the parts before slashes are taken off them: it
says that the base begins with a scheme and that the version is not empty (`check_eq_ok`), but not that there is a host
behind the scheme or a segment in the version.  Both have to be there for a root that serves (`root_serves_iff`).
-/

namespace RunWatch

/-! ## Text without a class of characters at its ends -/

namespace Text

variable {p : Char → Bool} {cs : List Char}

theorem dropRightWhile_eq (p : Char → Bool) (cs : List Char) : dropRightWhile p cs = cs.rdropWhile p := rfl

theorem dropRightWhile_append (p : Char → Bool) (xs ys : List Char) :
    dropRightWhile p (xs ++ ys) = if ys.all p then dropRightWhile p xs else xs ++ dropRightWhile p ys := by
  rw [dropRightWhile, List.reverse_append, List.dropWhile_append]
  by_cases h : ys.all p
  · have hgone : ys.reverse.dropWhile p = [] := List.dropWhile_eq_nil_iff.mpr (by simpa using h)
    simp [h, hgone, dropRightWhile]
  · have hleft : ys.reverse.dropWhile p ≠ [] := fun hgone => h (by simpa using List.dropWhile_eq_nil_iff.mp hgone)
    simp [h, hleft, dropRightWhile]

theorem getLast?_trimBoth {c : Char} (h : (trimBoth p cs).getLast? = some c) : p c = false := by
  have hne : trimBoth p cs ≠ [] := List.ne_nil_of_mem (List.mem_of_getLast? h)
  have hlast := List.rdropWhile_last_not p (cs.dropWhile p) hne
  rw [List.getLast?_eq_some_getLast hne, Option.some.injEq] at h
  exact eq_false_of_ne_true (h ▸ hlast)

theorem head?_trimBoth {c : Char} (h : (trimBoth p cs).head? = some c) : p c = false := by
  obtain ⟨behind, hbehind⟩ := List.rdropWhile_prefix p (cs.dropWhile p)
  have hhead : (cs.dropWhile p).head? = some c := by
    rw [← hbehind, List.head?_append]
    exact Option.or_eq_some_iff.mpr (.inl h)
  have hnot := List.head?_dropWhile_not p cs
  rw [hhead] at hnot
  simpa using hnot

end Text

namespace Api.Settings

/-! ## Segments -/

/-- The segments that slashes part an address into. -/
def segments (cs : List Char) : List (List Char) :=
  cs.splitOn '/'

/-- The segments that have a name. -/
def namedSegments (cs : List Char) : List (List Char) :=
  (segments cs).filter fun segment => !segment.isEmpty

theorem namedSegments_append_cons (xs ys : List Char) :
    namedSegments (xs ++ '/' :: ys) = namedSegments xs ++ namedSegments ys := by
  rw [namedSegments, segments, List.splitOn_append_cons_self, List.filter_append, namedSegments, namedSegments, segments,
    segments]

theorem namedSegments_slash_cons (cs : List Char) : namedSegments ('/' :: cs) = namedSegments cs :=
  namedSegments_append_cons [] cs

theorem namedSegments_concat_slash (cs : List Char) : namedSegments (cs ++ ['/']) = namedSegments cs :=
  (namedSegments_append_cons cs []).trans (List.append_nil _)

theorem namedSegments_dropWhile (cs : List Char) : namedSegments (cs.dropWhile isSlash) = namedSegments cs := by
  induction cs with
  | nil => rfl
  | cons c cs ih =>
    rw [List.dropWhile_cons]
    split
    · next hslash => rw [ih, of_decide_eq_true hslash, namedSegments_slash_cons]
    · rfl

theorem namedSegments_dropRightWhile (cs : List Char) :
    namedSegments (Text.dropRightWhile isSlash cs) = namedSegments cs := by
  induction cs using List.reverseRecOn with
  | nil => rfl
  | append_singleton cs c ih =>
    rw [Text.dropRightWhile_eq, List.rdropWhile_concat]
    split
    · next hslash => rw [← Text.dropRightWhile_eq, ih, of_decide_eq_true hslash, namedSegments_concat_slash]
    · rfl

theorem namedSegments_trimBoth (cs : List Char) : namedSegments (Text.trimBoth isSlash cs) = namedSegments cs := by
  rw [Text.trimBoth, namedSegments_dropRightWhile, namedSegments_dropWhile]

theorem namedSegments_eq_nil {cs : List Char} : namedSegments cs = [] ↔ ∀ c ∈ cs, c = '/' := by
  induction cs with
  | nil => simp [namedSegments, segments]
  | cons c cs ih =>
    rw [List.forall_mem_cons, ← ih]
    by_cases hslash : c = '/'
    · simp [hslash, namedSegments_slash_cons]
    · -- The segment that the character begins has a name.
      have hfirst : segments (c :: cs) = (segments cs).modifyHead (c :: ·) := by
        rw [segments, List.splitOn_cons_eq_if_modifyHead, if_neg (by simpa using hslash), segments]
      obtain ⟨first, rest, hsegments⟩ := List.exists_cons_of_ne_nil (List.splitOn_ne_nil '/' cs)
      rw [namedSegments, hfirst, segments, hsegments]
      simp [hslash]

/-! ## Parts put together -/

theorem intercalate_cons (part : List Char) (more : List (List Char)) :
    ['/'].intercalate (part :: more) = part ++ more.flatMap ('/' :: ·) := by
  induction more generalizing part with
  | nil => rw [List.intercalate_singleton, List.flatMap_nil, List.append_nil]
  | cons next more ih =>
    rw [List.intercalate_cons_cons, ih, List.flatMap_cons]
    simp

/-- The last segment of an address has a name unless a slash stands behind it. -/
theorem getLast?_segments {cs : List Char} (hne : cs ≠ []) (hlast : cs.getLast? ≠ some '/') :
    (segments cs).getLast? = (namedSegments cs).getLast? := by
  obtain ⟨before, last, hsegments⟩ : ∃ before last, segments cs = before ++ [last] :=
    ⟨_, _, (List.dropLast_append_getLast (List.splitOn_ne_nil '/' cs)).symm⟩
  have hjoined : ['/'].intercalate (before ++ [last]) = cs := hsegments ▸ List.intercalate_splitOn '/'
  have hnamed : last ≠ [] := by
    rintro rfl
    cases before with
    | nil => exact hne hjoined.symm
    | cons first rest =>
      rw [List.cons_append, intercalate_cons, List.flatMap_append] at hjoined
      refine hlast ?_
      rw [← hjoined]
      simp
  rw [namedSegments, hsegments]
  simp [hnamed]

theorem namedSegments_intercalate (parts : List (List Char)) :
    namedSegments (['/'].intercalate parts) = parts.flatMap namedSegments := by
  cases parts with
  | nil => rfl
  | cons part more =>
    rw [intercalate_cons, List.flatMap_cons]
    induction more generalizing part with
    | nil => simp
    | cons next more ih =>
      rw [List.flatMap_cons, List.cons_append, namedSegments_append_cons, ih, List.flatMap_cons]

theorem mem_rootParts {s : Settings} {part : List Char} (h : part ∈ s.rootParts) :
    part ≠ [] ∧ part.head? ≠ some '/' ∧ part.getLast? ≠ some '/' := by
  obtain ⟨htrimmed, hne⟩ := List.mem_filter.mp h
  obtain ⟨text, -, rfl⟩ := List.mem_map.mp htrimmed
  refine ⟨by simpa using hne, fun hhead => ?_, fun hlast => ?_⟩
  · exact absurd (Text.head?_trimBoth hhead) (by decide)
  · exact absurd (Text.getLast?_trimBoth hlast) (by decide)

/-- The named segments of a root are those of its parts. -/
theorem namedSegments_root (s : Settings) : namedSegments s.root.toList =
    namedSegments s.baseUrl.toList ++ namedSegments s.pathPrefix.toList ++ namedSegments s.version.toList := by
  have hfilter (parts : List (List Char)) :
      (parts.filter fun part => !part.isEmpty).flatMap namedSegments = parts.flatMap namedSegments := by
    induction parts with
    | nil => rfl
    | cons part parts ih => cases part <;> simp [ih, namedSegments, segments]
  rw [root, String.toList_ofList, namedSegments_intercalate, rootParts, hfilter]
  simp [namedSegments_trimBoth]

/-- No slash stands behind a root. -/
theorem getLast?_root (s : Settings) : s.root.toList.getLast? ≠ some '/' := by
  rw [root, String.toList_ofList]
  have hparts : ∀ part ∈ s.rootParts, part ≠ [] ∧ part.getLast? ≠ some '/' :=
    fun part hpart => ⟨(mem_rootParts hpart).1, (mem_rootParts hpart).2.2⟩
  generalize s.rootParts = parts at hparts
  cases parts with
  | nil => simp
  | cons part more =>
    rw [intercalate_cons]
    rcases List.eq_nil_or_concat' more with rfl | ⟨init, last, rfl⟩
    · simpa using (hparts part List.mem_cons_self).2
    · obtain ⟨hne, hlast⟩ := hparts last (by simp)
      have hwhole : part ++ (init ++ [last]).flatMap ('/' :: ·) = (part ++ init.flatMap ('/' :: ·) ++ ['/']) ++ last := by
        simp
      rwa [hwhole, List.getLast?_append_of_ne_nil _ hne]

/-! ## Roots that serve -/

/-- What an address begins with. -/
def schemes : List String := ["http://", "https://"]

/-- An address with a scheme and the beginning of a host behind it. -/
def NamesHost (address : List Char) : Prop :=
  ∃ scheme ∈ schemes, ∃ c rest, c ≠ '/' ∧ address = scheme.toList ++ c :: rest

/-- A root that requests can be sent to: it names a host, no slash stands behind it, and its last segment is the last
one of the version that has a name. -/
structure RootServes (s : Settings) : Prop where
  host : NamesHost s.root.toList
  no_slash_behind : s.root.toList.getLast? ≠ some '/'
  version : ∃ segment, (namedSegments s.version.toList).getLast? = some segment ∧
    (segments s.root.toList).getLast? = some segment

variable {s : Settings} {scheme : String}

theorem scheme_cases (h : scheme ∈ schemes) : scheme = "http://" ∨ scheme = "https://" := by
  simpa [schemes] using h

/-- What the check tells: it sees the scheme of the base, but nothing of what is behind it, and no more of the version
than that it is not empty. -/
theorem check_eq_ok (s : Settings) : s.check = .ok () ↔
    (∃ scheme ∈ schemes, scheme.toList <+: s.baseUrl.toList) ∧ s.version ≠ "" ∧ s.timeout ≠ 0 := by
  have hschemes : (!"http://".toList.isPrefixOf s.baseUrl.toList && !"https://".toList.isPrefixOf s.baseUrl.toList) = true ↔
      ¬∃ scheme ∈ schemes, scheme.toList <+: s.baseUrl.toList := by
    simp only [schemes, Bool.and_eq_true, Bool.not_eq_true', Bool.eq_false_iff, ne_eq, List.isPrefixOf_iff_prefix,
      List.exists_mem_cons_iff, List.not_mem_nil, false_and, exists_false, or_false, not_or]
  rw [check]
  split
  · next hempty =>
    refine iff_of_false (fun h => by cases h) fun ⟨⟨scheme, hscheme, hprefix⟩, _⟩ => ?_
    rw [String.isEmpty_iff.mp hempty, String.toList_empty, List.prefix_nil] at hprefix
    rcases scheme_cases hscheme with rfl | rfl <;> exact absurd hprefix (by decide)
  split
  · next hnone => exact iff_of_false (fun h => by cases h) fun h => hschemes.mp hnone h.1
  · next hsome =>
    rw [hschemes, not_not] at hsome
    split
    · next hversion => exact iff_of_false (fun h => by cases h) fun h => h.2.1 (String.isEmpty_iff.mp hversion)
    split
    · next htimeout => exact iff_of_false (fun h => by cases h) fun h => h.2.2 htimeout
    · next hversion htimeout => exact iff_of_true rfl ⟨hsome, mt String.isEmpty_iff.mpr hversion, htimeout⟩

theorem exists_not_slash (hscheme : scheme ∈ schemes) (hbase : scheme.toList <+: s.baseUrl.toList) :
    ∃ c ∈ s.baseUrl.toList, c ≠ '/' := by
  refine ⟨'h', hbase.mem ?_, by decide⟩
  rcases scheme_cases hscheme with rfl | rfl <;> decide

/-- A root begins with the base, without the slashes behind it, and goes on with another part. -/
theorem exists_root_eq (hscheme : scheme ∈ schemes) (hbase : scheme.toList <+: s.baseUrl.toList) :
    ∃ behind : List Char, s.root.toList = Text.dropRightWhile isSlash s.baseUrl.toList ++ behind ∧
      (behind = [] ∨ ∃ c rest, c ≠ '/' ∧ behind = '/' :: c :: rest) := by
  have hne : Text.dropRightWhile isSlash s.baseUrl.toList ≠ [] := by
    obtain ⟨c, hmem, hc⟩ := exists_not_slash hscheme hbase
    exact fun hnone => hc (of_decide_eq_true (List.rdropWhile_eq_nil_iff.mp hnone c hmem))
  have htrimmed : Text.trimBoth isSlash s.baseUrl.toList = Text.dropRightWhile isSlash s.baseUrl.toList := by
    obtain ⟨rest, hrest⟩ := hbase
    rcases scheme_cases hscheme with rfl | rfl <;> rw [← hrest] <;> rfl
  obtain ⟨more, hmore⟩ : ∃ more, s.rootParts = Text.dropRightWhile isSlash s.baseUrl.toList :: more :=
    ⟨_, by rw [rootParts, List.map_cons, htrimmed, List.filter_cons_of_pos (by simpa using hne)]⟩
  refine ⟨more.flatMap ('/' :: ·), by rw [root, String.toList_ofList, hmore, intercalate_cons], ?_⟩
  cases more with
  | nil => exact .inl rfl
  | cons next more =>
    obtain ⟨hnext, hhead, -⟩ := @mem_rootParts s next (by simp [hmore])
    obtain ⟨c, chars, rfl⟩ := List.exists_cons_of_ne_nil hnext
    exact .inr ⟨c, _, fun hc => hhead (congrArg some hc), rfl⟩

theorem namesHost_append (hscheme : scheme ∈ schemes) (rest : List Char) :
    NamesHost (scheme.toList ++ rest) ↔ ∃ c more, c ≠ '/' ∧ rest = c :: more := by
  constructor
  · rintro ⟨scheme', hscheme', c, more, hc, heq⟩
    rcases scheme_cases hscheme with rfl | rfl <;> rcases scheme_cases hscheme' with rfl | rfl <;> simp_all
  · rintro ⟨c, more, hc, rfl⟩
    exact ⟨scheme, hscheme, c, more, hc, rfl⟩

/-- Without its slashes, a scheme is no beginning of an address that names a host. -/
theorem not_namesHost_of_bare {behind : List Char} (hscheme : scheme ∈ schemes)
    (hbehind : behind = [] ∨ ∃ c rest, c ≠ '/' ∧ behind = '/' :: c :: rest) :
    ¬NamesHost (Text.dropRightWhile isSlash scheme.toList ++ behind) := by
  rintro ⟨scheme', hscheme', c, more, -, heq⟩
  have hhttp : Text.dropRightWhile isSlash "http://".toList = "http:".toList := by decide
  have hhttps : Text.dropRightWhile isSlash "https://".toList = "https:".toList := by decide
  rcases hbehind with rfl | ⟨d, rest, hd, rfl⟩ <;> rcases scheme_cases hscheme with rfl | rfl <;>
    rcases scheme_cases hscheme' with rfl | rfl <;> simp_all

/-- A root names a host exactly if its base does. -/
theorem namesHost_root (h : s.check = .ok ()) : NamesHost s.root.toList ↔ NamesHost s.baseUrl.toList := by
  obtain ⟨⟨scheme, hscheme, hbase⟩, -⟩ := (check_eq_ok s).mp h
  obtain ⟨behind, hroot, hbehind⟩ := exists_root_eq hscheme hbase
  obtain ⟨rest, hrest⟩ := hbase
  rw [hroot, ← hrest, Text.dropRightWhile_append]
  split
  · -- Nothing but slashes is behind the scheme, so its own slashes go with them.
    next hslashes =>
    refine iff_of_false (not_namesHost_of_bare hscheme hbehind) fun hhost => ?_
    obtain ⟨c, more, hc, rfl⟩ := (namesHost_append hscheme rest).mp hhost
    simp [isSlash, hc] at hslashes
  · next hnamed =>
    have hne : Text.dropRightWhile isSlash rest ≠ [] := by
      rw [Text.dropRightWhile_eq, ne_eq, List.rdropWhile_eq_nil_iff, ← List.all_eq_true]
      exact hnamed
    obtain ⟨c, kept, hkept⟩ := List.exists_cons_of_ne_nil hne
    obtain ⟨dropped, hdropped⟩ := List.rdropWhile_prefix isSlash rest
    have hfirst : rest = c :: (kept ++ dropped) := by
      rw [← hdropped, ← Text.dropRightWhile_eq, hkept, List.cons_append]
    rw [List.append_assoc, namesHost_append hscheme, namesHost_append hscheme, hkept, hfirst]
    simp

/-- A root ends with a segment of its version exactly if there is one. -/
theorem version_root (h : s.check = .ok ()) :
    (∃ segment, (namedSegments s.version.toList).getLast? = some segment ∧
      (segments s.root.toList).getLast? = some segment) ↔ ∃ c ∈ s.version.toList, c ≠ '/' := by
  have hne : s.root.toList ≠ [] := by
    obtain ⟨⟨scheme, hscheme, hbase⟩, -⟩ := (check_eq_ok s).mp h
    obtain ⟨c, hmem, hc⟩ := exists_not_slash hscheme hbase
    intro hnone
    have hnames : namedSegments s.root.toList = [] := namedSegments_eq_nil.mpr (by simp [hnone])
    rw [namedSegments_root, List.append_assoc, List.append_eq_nil_iff] at hnames
    exact hc (namedSegments_eq_nil.mp hnames.1 c hmem)
  have hnames : (∃ c ∈ s.version.toList, c ≠ '/') ↔ namedSegments s.version.toList ≠ [] := by
    rw [ne_eq, namedSegments_eq_nil]
    simp
  rw [hnames, getLast?_segments hne (getLast?_root s), namedSegments_root]
  constructor
  · rintro ⟨segment, hsegment, -⟩ hnone
    simp [hnone] at hsegment
  · intro hsome
    rw [List.getLast?_append_of_ne_nil _ hsome]
    exact ⟨_, List.getLast?_eq_some_getLast hsome, List.getLast?_eq_some_getLast hsome⟩

/-- The root of settings that have passed the check serves exactly if the base names a host behind its scheme and the
version is not made of slashes alone: then it names the host, and its last segment is that of the version.  In any case
no slash stands behind it, and it has the named segments of base, prefix and version in this order. -/
theorem root_serves_iff (s : Settings) (h : s.check = .ok ()) :
    (s.RootServes ↔ NamesHost s.baseUrl.toList ∧ ∃ c ∈ s.version.toList, c ≠ '/') ∧
    s.root.toList.getLast? ≠ some '/' ∧
    namedSegments s.root.toList =
      namedSegments s.baseUrl.toList ++ namedSegments s.pathPrefix.toList ++ namedSegments s.version.toList := by
  have hhost := namesHost_root h
  have hversion := version_root h
  have hlast := getLast?_root s
  refine ⟨⟨fun hserves => ?_, fun ⟨hbase, hsome⟩ => ?_⟩, hlast, namedSegments_root s⟩
  · exact ⟨hhost.mp hserves.host, hversion.mp hserves.version⟩
  · exact ⟨hhost.mpr hbase, hlast, hversion.mpr hsome⟩

/-- Slashes too many do no harm as long as something is left between them. -/
theorem root_serves_amid_slashes :
    let s : Settings := ⟨"https://api.test//", "/", "/v1//beta/", none, 1⟩
    s.check = .ok () ∧ s.root = "https://api.test/v1//beta" ∧ s.RootServes := by
  intro s
  have hchecked : s.check = .ok () := by decide +kernel
  refine ⟨hchecked, by decide +kernel, (root_serves_iff s hchecked).1.mpr ⟨?_, 'v', by decide, by decide⟩⟩
  exact ⟨"https://", by decide, 'a', "pi.test//".toList, by decide, by decide +kernel⟩

/-- Settings pass the check with a version of one slash, and their root ends without a version; and with nothing behind
the scheme, which leaves a root without a host. -/
theorem accepted_root_does_not_serve :
    let env : Environment := .ofTexts fun name =>
      if name = "LOOKOUT_API_URL" then some "http://localhost:8082"
      else if name = "LOOKOUT_API_VERSION" then some "/" else none
    let unversioned : Settings := { Settings.standard with version := "/" }
    let hostless : Settings := { Settings.standard with baseUrl := "https://" }
    (Settings.ofEnvironment env = .ok unversioned ∧ unversioned.check = .ok () ∧
      unversioned.root = "http://localhost:8082/observability" ∧ ¬unversioned.RootServes) ∧
    (hostless.check = .ok () ∧ hostless.root = "https:/observability/v1" ∧ ¬hostless.RootServes) := by
  intro env unversioned hostless
  have hchecked : hostless.check = .ok () := by decide +kernel
  have hread : Settings.ofEnvironment env = .ok unversioned := by
    simp only [Settings.ofEnvironment, env, Environment.text?_ofTexts]
    rfl
  refine ⟨⟨hread, by decide +kernel, by decide +kernel, fun hserves => ?_⟩, hchecked, by decide +kernel, fun hserves => ?_⟩
  · obtain ⟨segment, hsegment, -⟩ := hserves.version
    have hnone : (namedSegments unversioned.version.toList).getLast? = none := by decide
    exact Option.some_ne_none segment (hsegment.symm.trans hnone)
  · have hbase : NamesHost ("https://".toList ++ []) := by
      rw [List.append_nil]
      exact (namesHost_root hchecked).mp hserves.host
    obtain ⟨c, more, -, hmore⟩ := (namesHost_append (by decide) []).mp hbase
    exact absurd hmore (List.cons_ne_nil c more).symm

end Api.Settings

end RunWatch
