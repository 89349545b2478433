import DrgnDwarf.Dwarf
import DrgnDwarf.Type
import DrgnDwarf.Cache
import DrgnDwarf.Dispatch
import DrgnDwarf.Internal
import DrgnDwarf.Find
import DrgnDwarf.Effects
import DrgnDwarf.Depth
import DrgnDwarf.Memo
import DrgnDwarf.Array
import DrgnDwarf.Compound
import DrgnDwarf.Declaration
import DrgnDwarf.Lookup
import DrgnDwarf.Replay
import DrgnDwarf.Cycles
import DrgnDwarf.Qualifier
import DrgnDwarf.Function
import DrgnDwarf.Enum
import DrgnDwarf.Termination
import DrgnDwarf.Flag
import DrgnDwarf.Law
import DrgnDwarf.Kind
import DrgnDwarf.Enumerator
import DrgnDwarf.Again
import DrgnDwarf.Name
import DrgnDwarf.Object
