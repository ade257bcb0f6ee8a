import ApiDescription.Proofs.Insular
import ApiDescription.Proofs.Pointer.Text
import ApiDescription.Proofs.Registration

/-!
# Names that schemas give themselves

The names of a document are collected once, when it is loaded, by a walk over its whole tree that
leaves out what stands under certain keys, because it is data there.  Binding goes through the same
tree by what the keys mean, and there a property or a component may have such a key as its name.

`Registry.anchors_located` says when a name that a schema gives itself is found: if and only if none
of the keys on the way to the schema is one of those.
-/

namespace ApiDescription

theorem Entries.exists_get?_of_mem {α : Type} {entries : Entries α} {entry : String × α}
    (h : entry ∈ entries) : ∃ value, entries.get? entry.1 = some value := by
  induction entries with
  | nil => simp at h
  | cons first rest ih =>
    rw [get?_cons]
    split
    · exact ⟨_, rfl⟩
    · next hne =>
      rcases List.mem_cons.mp h with rfl | hrest
      · exact absurd rfl hne
      · exact ih hrest

/-! ## The walk over a tree -/

namespace Json

/-- The object at the end of a path gives itself a name. -/
def NamesAt (root : Json) (name : String) (path : List String) : Prop :=
  ∃ members, root.walk? path = some (.object members) ∧ name ∈ anchorNames members

theorem NamesAt.cons {value next : Json} {name key : String} {path : List String}
    (hstep : value.step? key = some next) (h : next.NamesAt name path) :
    value.NamesAt name (key :: path) := by
  obtain ⟨members, hwalk, hname⟩ := h
  exact ⟨members, by rw [walk?_cons, hstep, Option.bind_some, hwalk], hname⟩

theorem NamesAt.of_cons {value : Json} {name key : String} {path : List String}
    (h : value.NamesAt name (key :: path)) :
    ∃ next, value.step? key = some next ∧ next.NamesAt name path := by
  obtain ⟨members, hwalk, hname⟩ := h
  rw [walk?_cons, Option.bind_eq_some_iff] at hwalk
  obtain ⟨next, hstep, hwalk⟩ := hwalk
  exact ⟨next, hstep, members, hwalk, hname⟩

theorem NamesAt.of_object {members : List (String × Json)} {name : String} {path : List String}
    (h : (object members).NamesAt name path) :
    path = [] ∧ name ∈ anchorNames members ∨
      ∃ member ∈ members, ∃ rest, path = member.1 :: rest ∧ member.2.NamesAt name rest := by
  cases path with
  | nil =>
    obtain ⟨_, hwalk, hname⟩ := h
    cases hwalk
    exact .inl ⟨rfl, hname⟩
  | cons key rest =>
    obtain ⟨next, hstep, hnext⟩ := h.of_cons
    exact .inr ⟨(key, next), Entries.mem_of_get? hstep, rest, rfl, hnext⟩

theorem NamesAt.of_string {text name : String} {path : List String}
    (h : (string text).NamesAt name path) : False := by
  cases path with
  | nil =>
    obtain ⟨_, hwalk, -⟩ := h
    cases hwalk
  | cons key rest =>
    obtain ⟨next, hstep, -⟩ := h.of_cons
    cases hstep

variable {at_ : Pointer} {entry : String × Pointer}

theorem mem_anchorsOfMembers {members : List (String × Json)} :
    entry ∈ anchorsOfMembers at_ members ↔
      ∃ member ∈ members, member.1 ∉ dataMembers ∧ entry ∈ member.2.anchors (at_.push member.1) := by
  induction members with
  | nil => simp [anchorsOfMembers]
  | cons member rest ih =>
    rw [anchorsOfMembers, List.mem_append, ih, List.exists_mem_cons_iff]
    refine or_congr_left ?_
    split
    · next hdata => simp [hdata]
    · next hdata => simp [hdata]

theorem mem_anchorsOfItems {items : List Json} {place : Nat} :
    entry ∈ anchorsOfItems at_ place items ↔
      ∃ (i : Nat) (item : Json), items[i]? = some item ∧
        entry ∈ item.anchors (at_.item (place + i)) := by
  induction items generalizing place with
  | nil => simp [anchorsOfItems]
  | cons item rest ih =>
    rw [anchorsOfItems, List.mem_append, ih]
    constructor
    · rintro (hfirst | ⟨i, later, hlater, hentry⟩)
      · exact ⟨0, item, rfl, hfirst⟩
      · refine ⟨i + 1, later, hlater, ?_⟩
        rwa [Nat.add_assoc, Nat.add_comm 1 i] at hentry
    · rintro ⟨i, later, hlater, hentry⟩
      cases i with
      | zero =>
        obtain rfl := Option.some.inj hlater
        exact .inl hentry
      | succ i =>
        refine .inr ⟨i, later, hlater, ?_⟩
        rwa [Nat.add_assoc, Nat.add_comm 1 i]

/-- A name is collected where the path to its object has no key of data. -/
theorem exists_mem_anchors {value : Json} {name : String} {path : List String}
    (h : value.NamesAt name path) (hpath : ∀ key ∈ path, key ∉ dataMembers) (at_ : Pointer) :
    ∃ p, (name, p) ∈ value.anchors at_ := by
  induction path generalizing value at_ with
  | nil =>
    obtain ⟨members, hwalk, hname⟩ := h
    obtain rfl := Option.some.inj hwalk
    refine ⟨at_, ?_⟩
    rw [anchors]
    exact List.mem_append_left _ (List.mem_map_of_mem hname)
  | cons key path ih =>
    obtain ⟨next, hstep, hnext⟩ := h.of_cons
    have hrest := fun at_ => ih hnext (fun key hkey => hpath key (List.mem_cons_of_mem _ hkey)) at_
    cases value with
    | object members =>
      obtain ⟨p, hp⟩ := hrest (at_.push key)
      refine ⟨p, ?_⟩
      rw [anchors]
      exact List.mem_append_right _ (mem_anchorsOfMembers.mpr
        ⟨(key, next), Entries.mem_of_get? hstep, hpath key List.mem_cons_self, hp⟩)
    | array items =>
      obtain ⟨i, -, hitem⟩ := Option.bind_eq_some_iff.mp hstep
      obtain ⟨p, hp⟩ := hrest (at_.item (0 + i))
      refine ⟨p, ?_⟩
      rw [anchors]
      exact mem_anchorsOfItems.mpr ⟨i, next, hitem, hp⟩
    | _ => cases hstep

theorem toString_not_mem_dataMembers (i : Nat) : toString i ∉ dataMembers := by
  intro hmem
  have hnone : ∀ key ∈ dataMembers, index? key = none := by decide +kernel
  exact Option.some_ne_none i ((index?_toString i).symm.trans (hnone _ hmem))

/-- What is collected is the name of an object, and the path to it has no key of data. -/
theorem of_mem_anchors {value : Json} {at_ : Pointer} (hwf : value.WellFormed) {name : String}
    {p : Pointer} (h : (name, p) ∈ value.anchors at_) :
    ∃ path, p.segments = at_.segments ++ path ∧ value.NamesAt name path ∧
      ∀ key ∈ path, key ∉ dataMembers := by
  -- one step down, the path is longer by a key
  have hlonger {at_ : Pointer} {key : String} {next : Json} (hstep : value.step? key = some next)
      (hkey : key ∉ dataMembers) (hnext : ∃ path, p.segments = (at_.push key).segments ++ path ∧
        next.NamesAt name path ∧ ∀ key ∈ path, key ∉ dataMembers) :
      ∃ path, p.segments = at_.segments ++ path ∧ value.NamesAt name path ∧
        ∀ key ∈ path, key ∉ dataMembers := by
    obtain ⟨path, hp, hnames, hpath⟩ := hnext
    rw [Pointer.segments_push, List.append_assoc, List.singleton_append] at hp
    exact ⟨key :: path, hp, hnames.cons hstep, List.forall_mem_cons.mpr ⟨hkey, hpath⟩⟩
  match value with
  | .object members =>
    simp only [WellFormed] at hwf
    rw [anchors] at h
    rcases List.mem_append.mp h with hhere | hbelow
    · obtain ⟨_, hname, heq⟩ := List.mem_map.mp hhere
      obtain ⟨rfl, rfl⟩ := Prod.mk.inj heq
      exact ⟨[], (List.append_nil _).symm, ⟨members, rfl, hname⟩, by simp⟩
    · obtain ⟨⟨key, next⟩, hmember, hkey, hentry⟩ := mem_anchorsOfMembers.mp hbelow
      have hsize : sizeOf next < 1 + sizeOf members := by
        have hsize := List.sizeOf_lt_of_mem hmember
        rw [Prod.mk.sizeOf_spec] at hsize
        omega
      exact hlonger (Entries.get?_of_mem hwf.1 hmember) hkey
        (of_mem_anchors (wellFormed_of_mem_members hwf.2 hmember) hentry)
  | .array items =>
    simp only [WellFormed] at hwf
    rw [anchors] at h
    obtain ⟨i, next, hitem, hentry⟩ := mem_anchorsOfItems.mp h
    have hmem := List.mem_of_getElem? hitem
    have hsize := List.sizeOf_lt_of_mem hmem
    rw [Nat.zero_add] at hentry
    refine hlonger ?_ (toString_not_mem_dataMembers i)
      (of_mem_anchors (wellFormed_of_mem_items hwf hmem) hentry)
    rw [step?, index?_toString, Option.bind_some, hitem]
  | .null | .bool _ | .number _ | .string _ => simp [anchors] at h
termination_by value

/-- Of the only object that gives itself a name, the name is collected if and only if the path to it
has no key of data. -/
theorem get?_anchors {root : Json} (hwf : root.WellFormed) {name : String} {path : List String}
    (h : root.NamesAt name path) (hsole : ∀ other, root.NamesAt name other → other = path) :
    ((∀ key ∈ path, key ∉ dataMembers) →
      ∃ p, Entries.get? (root.anchors .root) name = some p ∧ p.segments = path) ∧
    (¬ (∀ key ∈ path, key ∉ dataMembers) → Entries.get? (root.anchors .root) name = none) := by
  have hfound {p : Pointer} (hp : (name, p) ∈ root.anchors .root) :
      p.segments = path ∧ ∀ key ∈ path, key ∉ dataMembers := by
    obtain ⟨other, hsegments, hother, hdata⟩ := of_mem_anchors hwf hp
    obtain rfl := hsole other hother
    exact ⟨hsegments, hdata⟩
  constructor
  · intro hpath
    obtain ⟨q, hq⟩ := exists_mem_anchors h hpath .root
    obtain ⟨p, hp⟩ := Entries.exists_get?_of_mem hq
    exact ⟨p, hp, (hfound (Entries.mem_of_get? hp)).1⟩
  · intro hdata
    cases hget : Entries.get? (root.anchors .root) name with
    | none => rfl
    | some p => exact absurd (hfound (Entries.mem_of_get? hget)).2 hdata

end Json

/-! ## References by name -/

/-- A name that a schema may give itself: a letter or an underscore, and then letters, digits, dots,
underscores and hyphens. -/
def IsAnchorName (name : String) : Prop :=
  ∃ first rest, name.toList = first :: rest ∧ (first.isAlpha ∨ first = '_') ∧
    ∀ c ∈ rest, c.isAlphanum ∨ c = '.' ∨ c = '_' ∨ c = '-'

namespace IsAnchorName

variable {name : String} (h : IsAnchorName name)
include h

/-- Characters that mean something else in a reference are not in such a name. -/
theorem not_mem {c : Char} (hc : c ∈ ['#', '%', '/', '~']) : c ∉ name.toList := by
  have hplain : c.isAlphanum = false ∧ c.isAlpha = false ∧ c ∉ ['.', '_', '-'] := by
    simp only [List.mem_cons, List.not_mem_nil, or_false] at hc
    rcases hc with rfl | rfl | rfl | rfl <;> decide
  obtain ⟨first, rest, hname, hfirst, hrest⟩ := h
  intro hmem
  rw [hname] at hmem
  rcases List.mem_cons.mp hmem with rfl | hmem
  · rcases hfirst with halpha | rfl
    · exact Bool.false_ne_true (hplain.2.1.symm.trans halpha)
    · exact hplain.2.2 (by simp)
  · rcases hrest c hmem with halpha | rfl | rfl | rfl
    · exact Bool.false_ne_true (hplain.1.symm.trans halpha)
    all_goals exact hplain.2.2 (by simp)

theorem decodeSegment_eq : Pointer.decodeSegment name = name := by
  rw [Pointer.decodeSegment, Percent.decode_of_not_mem (h.not_mem (by decide)),
    Pointer.unescape_of_not_mem (h.not_mem (by decide)), String.ofList_toList]

theorem ofFragment?_eq_none : Pointer.ofFragment? name = none := by
  have hhash := h.not_mem (c := '#') (by decide)
  have hslash := h.not_mem (c := '/') (by decide)
  obtain ⟨first, rest, hname, -, -⟩ := h
  rw [hname, List.mem_cons, not_or] at hhash hslash
  unfold Pointer.ofFragment?
  rw [hname]
  dsimp only
  split
  · next hbody =>
    split at hbody
    · next heq => exact absurd (List.cons.inj heq).1.symm hhash.1
    · cases hbody
  · next hbody =>
    split at hbody
    · next heq => exact absurd (List.cons.inj heq).1.symm hhash.1
    · exact absurd (List.cons.inj hbody).1.symm hslash.1
  · rfl

/-- A reference by a name leads to the node that has the name. -/
theorem locate_eq (c : Scope) :
    c.locate ("#" ++ name) =
      match c.source.anchor? name with
      | some p => c.nodeAt p ("#" ++ name)
      | none => .error (.unknownAnchor name ("#" ++ name)) := by
  have hparse : UriReference.parse ("#" ++ name) = ⟨"", some name⟩ := by
    simp [UriReference.parse, Text.cut, String.toList_append]
  rw [Scope.locate_eq, hparse]
  change c.nodeOf (some name) ("#" ++ name) = _
  unfold Scope.nodeOf
  dsimp only
  rw [Scope.pointerOf, h.ofFragment?_eq_none, h.decodeSegment_eq]
  dsimp only
  cases c.source.anchor? name <;> rfl

end IsAnchorName

/-- A node gives itself a name, and nothing else in its document has this name. -/
structure Node.SoleAnchor (n : Node) (name : String) : Prop where
  /-- The name is written. -/
  written : n.value.member? "$anchor" = some (.string name)
  /-- The name is one that a schema may give itself. -/
  plain : IsAnchorName name
  /-- No other object has the name. -/
  sole : ∀ path, n.scope.source.root.NamesAt name path → path = n.pointer.segments

theorem Node.SoleAnchor.namesAt {n : Node} {name : String} (h : n.SoleAnchor name)
    (hat : n.scope.source.root.at? n.pointer = some n.value) :
    n.scope.source.root.NamesAt name n.pointer.segments := by
  have hwritten := h.written
  cases hvalue : n.value with
  | object members =>
    rw [hvalue] at hwritten hat
    refine ⟨members, hat, List.mem_filterMap.mpr ⟨"$anchor", by simp, ?_⟩⟩
    rw [show Entries.get? members "$anchor" = _ from hwritten]
    rfl
  | _ =>
    rw [hvalue] at hwritten
    cases hwritten

/-- A reference in a document by a name that one node gives itself leads to this node if none of the
keys on the way to it is a key of data, and else nowhere. -/
theorem Node.Sited.locate_anchor {S : Setting} {n : Node} (hn : n.Sited S)
    (hwf : S.registry.WellFormed)
    (hanchors : n.scope.source.anchors = n.scope.source.root.anchors .root) {name : String}
    (h : n.SoleAnchor name) :
    ((∀ key ∈ n.pointer.segments, key ∉ dataMembers) →
      ∃ p, p.segments = n.pointer.segments ∧
        n.scope.locate ("#" ++ name) = .ok ⟨n.scope, p, n.value⟩) ∧
    (¬ (∀ key ∈ n.pointer.segments, key ∉ dataMembers) →
      n.scope.locate ("#" ++ name) = .error (.unknownAnchor name ("#" ++ name))) := by
  obtain ⟨hat, -⟩ := hn.value hwf
  obtain ⟨hfound, hlost⟩ := Json.get?_anchors
    (hwf _ (List.mem_of_getElem? hn.scope.source)) (h.namesAt hat) h.sole
  rw [h.plain.locate_eq, RegisteredDocument.anchor?, hanchors]
  refine ⟨fun hpath => ?_, fun hdata => by rw [hlost hdata]⟩
  obtain ⟨p, hp, hsegments⟩ := hfound hpath
  refine ⟨p, hsegments, ?_⟩
  have hvalue : n.scope.source.root.at? p = some n.value := by
    rw [Json.at?, hsegments]
    exact hat
  rw [hp]
  dsimp only
  rw [Scope.nodeAt, hvalue]

/-! ## Registries -/

/-- Every document of the registry is as it was loaded. -/
def Registry.Loaded (r : Registry) : Prop :=
  ∀ d ∈ r.documents, ∃ base loaded, d = .ofLoaded base loaded

namespace Registry.Loaded

variable {r r' : Registry}

theorem add (h : r.Loaded) (base : Uri) (loaded : LoadedDocument) :
    (r.add (.ofLoaded base loaded)).Loaded := by
  intro d hd
  rcases List.mem_append.mp hd with hold | hnew
  · exact h d hold
  · exact ⟨base, loaded, List.mem_singleton.mp hnew⟩

theorem replace (h : r.Loaded) {uri key : String} {loaded : LoadedDocument}
    (hreplace : r.replace uri loaded = .ok (r', key)) : r'.Loaded := by
  unfold Registry.replace at hreplace
  split at hreplace
  · cases hreplace
  · next base _ =>
    dsimp only at hreplace
    split at hreplace
    · cases hreplace
      intro d hd
      rcases List.mem_or_eq_of_mem_set hd with hold | hnew
      · exact h d hold
      · exact ⟨base, loaded, hnew⟩
    · cases hreplace
      exact h.add base loaded

theorem registerAll {i : Importer} (h : i.registry.Loaded) (calls : List (String × String)) :
    (i.registerAll calls).registry.Loaded := by
  induction calls generalizing i with
  | nil => exact h
  | cons call rest ih =>
    unfold Importer.registerAll
    rw [List.foldl_cons]
    cases hregister : i.register call.1 call.2 with
    | error fault => exact ih h
    | ok i' =>
      obtain ⟨-, d, ⟨base, loaded, -, -, rfl⟩, -, hregistry⟩ :=
        Importer.exists_add_of_register hregister
      exact ih (hregistry ▸ h.add base loaded)

end Registry.Loaded

/-- The entry document of an import is bound in a registry in which every document is as it was
loaded. -/
theorem Importer.loaded_of_reads (o : Options) (calls : List (String × String))
    {text declared : String} {S : Setting}
    (h : ((ofOptions o).registerAll calls).Reads text S declared) : S.registry.Loaded := by
  have hloaded : ((ofOptions o).registerAll calls).registry.Loaded :=
    Registry.Loaded.registerAll (by simp [Registry.Loaded, ofOptions, Registry.empty]) calls
  obtain ⟨d, key, -, -, hreplace, -⟩ := h
  exact hloaded.replace hreplace

/-- In a registry of documents as they were loaded, which is where an import binds, every schema of
a description is at a node of a document.  If this node gives itself a name that nothing else in the
document has, then a reference in the document by this name leads to the node if none of the keys on
the way to it is a key of data.  Otherwise it leads nowhere, and what is found is that there is no
such name. -/
theorem Registry.anchors_located (o : Options) (calls : List (String × String)) :
    (∀ {text declared : String} {S : Setting},
      ((Importer.ofOptions o).registerAll calls).Reads text S declared →
        S.registry.WellFormed ∧ S.registry.Loaded) ∧
    ∀ {r : Registry} {entry : String} {options : Options} {version : Version} {declared : String}
      {d : Description} {report : Report}, r.WellFormed → r.Loaded →
      r.bind entry options version declared = .ok (d, report) →
        ∃ place, r.place? entry = some place ∧ ∀ id s, d.schemas.get? id = some s →
          ∃ n : Node, n.Sited ⟨r, place, options, version⟩ ∧ s.Suits n ∧
            ∀ name, n.SoleAnchor name →
              ((∀ key ∈ n.pointer.segments, key ∉ dataMembers) →
                ∃ p, p.segments = n.pointer.segments ∧
                  n.scope.locate ("#" ++ name) = .ok ⟨n.scope, p, n.value⟩) ∧
              (¬ (∀ key ∈ n.pointer.segments, key ∉ dataMembers) →
                n.scope.locate ("#" ++ name) = .error (.unknownAnchor name ("#" ++ name))) := by
  constructor
  · intro text declared S h
    have hwf : (Importer.ofOptions o).registry.WellFormed := Registry.wellFormed_empty
    exact ⟨h.wellFormed (Importer.registerAll_wellFormed _ hwf calls),
      Importer.loaded_of_reads o calls h⟩
  · intro r entry options version declared d report hwf hloaded h
    obtain ⟨w, hrun, -⟩ := exists_run_of_bind h
    obtain ⟨⟨_, place, _, _⟩, root, rfl, hplace, rfl, rfl, hroot, htraced, -⟩ :=
      traced_of_run hrun
    refine ⟨place, hplace, fun id s hs => ?_⟩
    obtain ⟨n, hn, hsuits⟩ := htraced.schemas id s hs
    refine ⟨n, hn, hsuits, fun name hname => ?_⟩
    obtain ⟨base, loaded, hdocument⟩ := hloaded _ (List.mem_of_getElem? hn.scope.source)
    exact hn.locate_anchor hwf (by rw [hdocument]; rfl) hname

/-- A description with a component schema that gives itself a name, under a key of data. -/
def Json.namedDefault : Json :=
  .object [("openapi", .string "3.1.0"), ("components", .object [("schemas", .object [
    ("default", .object [("$anchor", .string "Foo")])])])]

/-- The text of `namedDefault`. -/
def namedDefaultText : String :=
  "\x7b\"openapi\":\"3.1.0\",\"components\":\x7b\"schemas\":\x7b" ++
    "\"default\":\x7b\"$anchor\":\"Foo\"\x7d\x7d\x7d\x7d"

theorem Json.path_of_namesAt_namedDefault {name : String} {path : List String}
    (h : namedDefault.NamesAt name path) : path = ["components", "schemas", "default"] := by
  rcases h.of_object with ⟨-, hname⟩ | ⟨_, hmember, path, rfl, hcomponents⟩
  · simp [anchorNames, Entries.get?_cons] at hname
  rcases List.mem_pair.mp hmember with rfl | rfl
  · exact hcomponents.of_string.elim
  rcases hcomponents.of_object with ⟨-, hname⟩ | ⟨_, hmember, path, rfl, hschemas⟩
  · simp [anchorNames, Entries.get?_cons] at hname
  obtain rfl := List.mem_singleton.mp hmember
  rcases hschemas.of_object with ⟨-, hname⟩ | ⟨_, hmember, path, rfl, hdefault⟩
  · simp [anchorNames, Entries.get?_cons] at hname
  obtain rfl := List.mem_singleton.mp hmember
  rcases hdefault.of_object with ⟨rfl, -⟩ | ⟨_, hmember, path, rfl, hanchor⟩
  · rfl
  obtain rfl := List.mem_singleton.mp hmember
  exact hanchor.of_string.elim

/-- The text of `namedDefault` is imported, and in `namedDefault` the name of the component leads
nowhere. -/
theorem Registry.anchors_located_namedDefault :
    (∃ S declared, ((Importer.ofOptions .standard).registerAll []).Reads namedDefaultText S declared ∧
      S.registry.WellFormed ∧ S.registry.Loaded) ∧
    (single Json.namedDefault).WellFormed ∧ (single Json.namedDefault).Loaded ∧
      ∃ d report, (single Json.namedDefault).bind "http://example.invalid/" .standard .v31 "3.1.0" =
          .ok (d, report) ∧
        ∃ (n : Node) (s : Schema), d.schemas.get? 0 = some s ∧ s.Suits n ∧ n.SoleAnchor "Foo" ∧
          n.scope.locate "#Foo" = .error (.unknownAnchor "Foo" "#Foo") := by
  have himported : (((Importer.ofOptions .standard).registerAll []).run
      namedDefaultText).toOption.isSome = true := by decide +kernel
  obtain ⟨out, hout⟩ := Option.isSome_iff_exists.mp himported
  obtain ⟨S, declared, -, -, hreads, -⟩ := Importer.exists_run_of_run (of_toOption_eq_some hout)
  have hwf : (single Json.namedDefault).WellFormed := by
    refine wellFormed_single ?_
    simp [Json.namedDefault, Json.WellFormed, Json.WellFormedMembers, Entries.names]
  have hloaded : (single Json.namedDefault).Loaded := by
    intro d hd
    exact ⟨_, _, List.mem_singleton.mp hd⟩
  have hfound : ((single Json.namedDefault).bind "http://example.invalid/" .standard .v31
      "3.1.0").toOption.bind (fun left => (left.1.schemas.get? 0).map fun s =>
        (s.document, s.location.segments)) =
      some ((none : Option String), ["components", "schemas", "default"]) := by decide +kernel
  obtain ⟨⟨d, report⟩, hbind, hfound⟩ := Option.bind_eq_some_iff.mp hfound
  obtain ⟨s, hs, hfound⟩ := Option.map_eq_some_iff.mp hfound
  obtain ⟨-, hlocation⟩ := Prod.mk.inj hfound
  replace hbind := of_toOption_eq_some hbind
  obtain ⟨place, hplace, hschemas⟩ := (anchors_located .standard []).2 hwf hloaded hbind
  obtain ⟨n, hn, hsuits, hnames⟩ := hschemas 0 s hs
  have hsource : n.scope.source = .ofLoaded Uri.placeholder ⟨.json, Json.namedDefault⟩ :=
    List.mem_singleton.mp (List.mem_of_getElem? hn.scope.source)
  have hpointer : n.pointer.segments = ["components", "schemas", "default"] :=
    hsuits.location ▸ hlocation
  have hvalue : n.value = .object [("$anchor", .string "Foo")] := by
    have hat := (hn.value hwf).1
    rw [hsource, Json.at?, hpointer] at hat
    exact (Option.some.inj hat).symm
  have hname : n.SoleAnchor "Foo" := by
    have hrest : ∀ c ∈ ['o', 'o'], c.isAlphanum ∨ c = '.' ∨ c = '_' ∨ c = '-' := by
      intro c hc
      obtain rfl : c = 'o' := by simpa using hc
      exact .inl (by decide)
    refine ⟨by rw [hvalue]; rfl, ⟨'F', ['o', 'o'], rfl, by decide, hrest⟩, fun path hpath => ?_⟩
    rw [hsource] at hpath
    rw [hpointer]
    exact Json.path_of_namesAt_namedDefault hpath
  refine ⟨⟨S, declared, hreads, (anchors_located .standard []).1 hreads⟩, hwf, hloaded, d, report,
    hbind, n, s, hs, hsuits, hname, (hnames "Foo" hname).2 ?_⟩
  rw [hpointer]
  decide

end ApiDescription
