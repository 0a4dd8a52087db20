import Snmalloc.Bits
import Snmalloc.Pagemap
import Snmalloc.ChunkMap.Region
import Snmalloc.ChunkMap.Registration
import Snmalloc.ChunkMap.Default
import Snmalloc.ChunkMap.HeadSearch
import Snmalloc.ChunkMap.LiveSet
import Snmalloc.ChunkMap.Refinement
import Snmalloc.ChunkMap.Lookup
import Snmalloc.ChunkMap.Interleave
import Snmalloc.ChunkMap.Cheri
import Snmalloc.Malloc.Memalign
import Snmalloc.Malloc.Calloc
import Snmalloc.Malloc.Realloc
import Snmalloc.ChunkMap.Threads
