import RoomTransfer.Proofs.EventTable
import RoomTransfer.Proofs.HashText

/-! The names of sets. Two events share a set only where their rows have the same type, and two
drawings exactly where they are on the same page of the same address: the name of their set is taken
apart in one way only, because the identifier of an address has a fixed length. -/
namespace RoomTransfer

theorem addressHash_length (url : String) : (addressHash url).toList.length = 36 := by
  have same := (addressHash_isHashText url).length_eq
  rw [← same]
  rfl

def drawingSet (url : String) (page : Value) : String :=
  "draw_" ++ addressHash url ++ "_" ++ page.rendered

/-- The page may hold any characters, those of the name around it included. -/
theorem drawingSet_inj {url url' : String} {page page' : Value} :
    drawingSet url page = drawingSet url' page' ↔
      addressHash url = addressHash url' ∧ page.rendered = page'.rendered := by
  constructor
  · intro same
    have chars := congrArg String.toList same
    simp only [drawingSet,String.toList_append] at chars
    have length := addressHash_length url
    have length' := addressHash_length url'
    obtain ⟨front,pages⟩ := List.append_inj chars (by simp [length,length'])
    obtain ⟨named,_⟩ := List.append_inj front (by simp [length,length'])
    obtain ⟨_,hashes⟩ := List.append_inj named rfl
    exact ⟨String.toList_inj.mp hashes,String.toList_inj.mp pages⟩
  · rintro ⟨hashes,pages⟩
    rw [drawingSet,hashes,pages,drawingSet]

/-- No other set is named like that of a drawing. -/
theorem name_ne_drawingSet (type : EventType) (url : String) (page : Value) :
    type.name ≠ drawingSet url page := by
  intro same
  have start : (drawingSet url page).toList.take 5 = "draw_".toList := by
    simp only [drawingSet,String.toList_append,List.append_assoc]
    rfl
  rw [← same] at start
  cases type <;> exact absurd start (by decide)

namespace EventContent

variable {row : Row} {type : EventType} {content : EventContent}

theorem Table.set_eq_name (table : Table row type content) (other : type ≠ .draw) :
    content.set = type.name := by
  cases table with
  | draw => exact absurd rfl other
  | _ => rfl

theorem Table.set_eq_drawingSet (table : Table row .draw content) :
    ∃ url, row.Addresses url ∧ content.set = drawingSet url (row.member "page") := by
  cases table with
  | draw address => exact ⟨_,address,rfl⟩

theorem Table.type_of_set {row' : Row} {type' : EventType} {content' : EventContent}
    (table : Table row type content) (table' : Table row' type' content')
    (same : content.set = content'.set) : type = type' := by
  by_cases draws : type = .draw <;> by_cases draws' : type' = .draw
  · rw [draws,draws']
  · subst draws
    obtain ⟨url,_,set⟩ := table.set_eq_drawingSet
    rw [set,table'.set_eq_name draws'] at same
    exact absurd same.symm (name_ne_drawingSet _ _ _)
  · subst draws'
    obtain ⟨url,_,set⟩ := table'.set_eq_drawingSet
    rw [set,table.set_eq_name draws] at same
    exact absurd same (name_ne_drawingSet _ _ _)
  · rw [table.set_eq_name draws,table'.set_eq_name draws'] at same
    exact EventType.name_inj same

end EventContent

namespace Event

theorem type_of_made {row : Row} {agentLabel : Value} {event : Event}
    (made : ofRow row agentLabel = .ok (some event)) : ∃ type : EventType,
      row.get "type" = .text type.name ∧
        EventContent.Table row type ⟨event.kind,event.set,event.label,event.data⟩ := by
  obtain ⟨found,typed,rest⟩ := bind_eq_ok made
  cases found with
  | none => cases rest
  | some type =>
    have given := EventType.ofValue?_eq_some typed
    obtain ⟨event',same,_,mapped⟩ := (ofRow_decided agentLabel given).made made
    cases same
    exact ⟨type,given,mapped.content⟩

/-- The identifier of an address has its fixed shape, so sets never meet by accident: equal sets are
of rows of one type, and those of two drawings are equal exactly if the identifiers of their
addresses and the texts of their pages are. -/
theorem sets_never_collide :
    (∀ url, IsHashText (addressHash url)) ∧
      ∀ (row row' : Row) (agentLabel agentLabel' : Value) (event event' : Event),
        ofRow row agentLabel = .ok (some event) → ofRow row' agentLabel' = .ok (some event') →
          (event.set = event'.set → row.get "type" = row'.get "type") ∧
          (row.get "type" = .text "draw" → row'.get "type" = .text "draw" →
            ∃ url url', row.Addresses url ∧ row'.Addresses url' ∧
              (event.set = event'.set ↔ addressHash url = addressHash url' ∧
                (row.member "page").rendered = (row'.member "page").rendered)) := by
  refine ⟨addressHash_isHashText,fun row row' agentLabel agentLabel' event event' made made' => ?_⟩
  obtain ⟨type,given,table⟩ := type_of_made made
  obtain ⟨type',given',table'⟩ := type_of_made made'
  constructor
  · intro same
    rw [given,given',table.type_of_set table' same]
  · intro draws draws'
    have drawing {type : EventType} {v : Value} (given : v = .text type.name)
        (draws : v = .text EventType.draw.name) : type = .draw :=
      EventType.name_inj (Value.text.inj (given.symm.trans draws))
    obtain rfl := drawing given draws
    obtain rfl := drawing given' draws'
    obtain ⟨url,address,set⟩ := table.set_eq_drawingSet
    obtain ⟨url',address',set'⟩ := table'.set_eq_drawingSet
    refine ⟨url,url',address,address',?_⟩
    change event.set = _ at set
    change event'.set = _ at set'
    rw [set,set',drawingSet_inj]

def plainDrawing : Row := drawingRow [(.text "url",.text "a_b"),(.text "page",.text "cover")]

/-- On one address, a page whose text starts with the mark that stands before it is in a set of its
own. -/
theorem marked_page_apart : ∃ event event', ofRow coverDrawing .null = .ok (some event) ∧
    ofRow plainDrawing .null = .ok (some event') ∧ event.set ≠ event'.set := by
  refine ⟨_,_,rfl,rfl,fun same => ?_⟩
  obtain ⟨_,_,_,_,apart⟩ :=
    (sets_never_collide.2 coverDrawing plainDrawing .null .null _ _ rfl rfl).2 rfl rfl
  exact absurd (apart.mp same).2 (by decide)

end Event

end RoomTransfer
