import Groundwork.Unicode.CharSet

/-!
The characters that texts are shown and changed in case by, in edition 17 of the standard.
-/

namespace Groundwork.Unicode

/-- Characters that are letters or count as letters. -/
def letterSet : CharSet :=
  .ofRuns
    "41.1a 6.1a 2f a 4 5.17 1.1f 1.1ca 4.c e.5 7 1 56 1d.12 1.2 2.4 1 6 1.3 1 1.14 1.53 1.8b 8.a6
    1.26 2 6.29 27.e 1 1.2 1.2 1 8.1b 4.4 1d.b 5.38 1.7 e.66 1.8 4.8 4.3 a.3 2 10.30 d.65 18.21
    9.2 4 5.18 2.13 13.19 7.b 5.18 1.7 7 8.2a a.c 3.7 6.4c 1.10 1.3 4.f d.13 1.8 2.2 2.16 1.7 1
    3.4 3.8 2.2 2.2 1 8 4.2 1.5 c.2 a 4.3 1.6 4.2 2.16 1.7 1.2 1.2 1.2 4.5 4.2 2.2 4 7.4 1 11.6
    b.3 1.9 1.3 1.16 1.7 1.2 1.5 3.9 1.3 1.2 3 f.4 15.4 4.3 1.8 2.2 2.16 1.7 1.2 1.5 3.8 2.2 2.2
    9.2 4.2 1.5 d 10.2 1.6 3.3 1.4 3.2 1 1.2 3.2 3.3 3.c 4.5 3.3 1.3 3 6 28.d 1.3 1.17 1.10 3.8
    1.3 1.3 8.2 1.3 1.2 2.4 1c.4 1.8 1.3 1.17 1.a 1.5 3.8 1.3 1.3 8.2 5.3 1.4 d.3 c.d 1.3 1.29 2.8
    1.3 1.3 1 5.4 7.5 16.6 1.3 1.12 3.18 1.9 1 2.7 8.6 1 1.8 12.2 d.3a 5.7 6 33.2 1 1.5 1.18 1
    1.13 1.3 2.5 1 6 e.4 20 3f.8 1.24 4.13 4.10 1.24 43.37 1 2.5 10.40 a.4 2.26 1 5 2.2b 1.14d 1.4
    2.7 1 1.4 2.29 1.4 2.21 1.4 2.7 1 1.4 2.f 1.39 1.4 2.43 25.10 10.56 2.6 3.26c 2.11 1.1a 5.4b
    3.b 7.14 b.15 c.14 c.d 1.3 1.2 c.34 2.13 e 4 43.59 7.2b 5.46 a.1f 1.c 4.9 17.1e 2.5 b.2c 4.1a
    36.1c 4.3f 2.14 32 17.2 b.3 31.34 1.f 1.8 33.2a 2.4 a.2c 1.b e.37 16.3 a.24 2.b 5.2b 2.3 29.4
    1.6 1.2 3 5.c0 13.22 b.116 2.6 2.26 2.6 2.8 1 1 1 1.1f 2.35 1.7 1 3.3 1.7 3.4 2.6 4.d 5.3 1.7
    74 d 10.d 65 4 2.a 1 3.5 6 1 1 1.4 1.b 2.4 5.5 4 11.29 32d.34 716.e5 6.4 3.2 c.26 1 5 2.38 7
    10.17 9.7 1.7 1.7 1.7 1.7 1.7 1.7 1.7 1.20 2f 1d5.3 19.9 7.5 2.5 4.56 6.3 1.5a 1.4 5.2b 1.5e
    11.20 30.10 200.19c0 40.568d 43.2e 2.10d 3.10 a.2 14.2f 5.8 3.71 27.9 2.67 2.52 14.15 1.21
    18.34 c.44 1 2c.6 3 1.3 a.21 5.23 d.1d 3.33 1.c f 10.10 a.5 1.37 9.e 12.17 3.45 1 1 18.3 2.10
    2.4 b.6 2.6 2.6 9.7 1.7 1.2b 1.e 6.7b 15.2ba4 c.17 4.31 2104.16e 2.6a 26.7 c.5 5.c 1.d 1.5 1
    1.2 1.2 1.6c 21.16b 12.40 2.36 28.c 74.5 1.87 24.1a 6.1a b.59 3.6 2.6 2.6 2.3 23.c 1.1a 1.13
    1.2 1.f 2.e 22.7b 45.35 10b.1d 3.31 2f.20 d.1e 5.2b 5.1e 2.24 4.8 1.5 2a.9e 12.24 4.24 4.28
    8.34 c.b 1.f 1.7 1.2 1.b 1.f 1.7 1.2 3.34 c.137 9.16 a.8 18.6 1.2a 1.9 45.6 2 1.2c 1.2 3 2.17
    a.17 9.1f 41.13 1.2 a.16 a.1a 6.1a 26.38 6.2 40.4 1.2 5.8 1.3 1.1d 2a.1d 3.1d 23.8 1.1c 1b.36
    a.16 a.13 d.12 6e.49 37.33 d.33 d.28 22.1c 3 5.17 fa.2a 1.2 3.2 10.6 32.3 3.1d a 8.16 2a.12
    2e.15 1b.17 9.46 2b.5 a.39 9 d.19 17.33 11.4 8.23 3 9.40 1.4 9.2 a 1 23.12 1.22 2 6.4 3e.7 1
    1.4 1.f 1.a 7.39 17.4 1.8 2.2 2.16 1.7 1.2 1.5 3.8 2.2 2.2 3 6 5.7 1c.a 1 2 1.26 1.a 1 2 1.4
    1.2 3 1 2c.42 1.3 1.4 14.3 1e.42 2.2 1 b8.36 2.7 19.6 22.3f 1 3 3b.36 2 47.1b 2.e 15.7 b9.39
    67.40 1f.8 2 2.8 1.2 1.1e 1.2 2.2 2.4 5d.8 2.2e 2.6 1 1.2 1b.33 2.a 11.48 5 12.49 67.8 58.21
    1f.9 1.2d 1.7 1 31.1e 2.16 1.e 49.7 1.2 1.2c 3 1.2 1.3 1 2.2 18.6 1.2 1.25 1.2 1.4 1 17.2c
    104.17 9.11 1.29 3.3 6f 4f.39a 66.6f 11.c4 a4c.61 f.430 11.6 19.f9b 5.247 1ab9.2f 6d1.239 7.1f
    11.4f 11.1e 12.30 10.4 1f.15 5.13 1b0.2d d3.40 20.19 2.19 2c.4b 4.39 7.11 40.2 1 c.7 9.1cd6
    29.20 61.73 21fd.4 1.7 1.2 1.123 f 1d.3 2 e.4 8.18c 904.6b 5.d 3.9 7.a 4 1761.55 1.47 1.2 2
    2.2 2.4 1.c 1 1.7 1.41 1.4 2.8 1.7 1.1c 1.4 1.5 1 3.7 1.154 2.19 1.19 1.1f 1.19 1.1f 1.19 1.1f
    1.19 1.1f 1.19 1.8 734.1f 6.6 d5.7 1.11 2.7 1.2 1.5 5.3e 21 70.2d a.7 10 141.1e 12.2c 1e4.1c
    e4.1e 2 cf.1f 1.16 8.2 e0.7 1.4 1.2 1.f 1.c5 3b.44 3 3 4b4.4 1.1b 1.2 1 2 1.a 1.4 1 1 6 4 1 1
    1.3 1.2 1 2 1 1 1 1 1.2 1 2.4 1.7 1.4 1.4 1 1.a 1.11 5.3 1.5 1.11 274.1a 6.1a 6.1a e76.a6e0
    20.111e 2.168e 2.1d31 f.26e 9a2.21e 5e2.134b 5.212a"

/-- Characters with a numeric value. -/
def numberSet : CharSet :=
  .ofRuns
    "30.a 78.2 5 2.3 5a1.a 86.a c6.a 19c.a 76.a 4.6 6c.a 76.a 76.a 2.6 6e.d 73.a 8.7 67.a 68.7 7.13
    6d.a 60.a 76.a 46.14 10c.a 46.a 2cf.14 371.3 ef.a 6.a 16.a 12c.a 80.b a5.a 6.a b6.a 56.a 86.a
    6.a 416 3.6 6.a c6.33 2.5 2d6.3c 4e.16 276.1e 569 309 19.9 e.3 157.4 8a.a 1e.8 1.f 20.a 27.f
    7360.a bc.a 140.6 9a.a 26.a c6.a 16.a 56.a 196.a 5316.a 1ed.2d c.39 11.2 155.1b 24.4 1d 8 86.5
    ca.a 3ae.8 19.7 27.9 4b.5 16.6 a0.2 2.10 2.2e 40.9 34.2 1e.3 4b.5 68.8 18.8 29.7 14a.6 30.a
    6.a 116.1f 9e.a 2a.4 70.7 86.1e 80.a 3c.a 90.a 7.14 fb.a 156.a 76.a 176.a 66.a 6.14 4c.c
    1a4.13 5d.a 296.a 56.1d e3.a 46.a 36.a 166.a 66.15 42b.6f 3cc1.a 926.a 56.a 86.a 1.7 20e.a
    106.17 15d.3 5cf9.a 5c6.14 c.14 6c.19 455.32 940.a 1a6.a 1f6.a f7.a 2cc.9 80.a 317.3b 1.3 1.4
    4c.2d 1.f 3c2.d ae3.a"

/-- Characters in upper case. -/
def capitalSet : CharSet :=
  .ofRuns
    "41.1a 65.17 1.7 21 1 1 1 1 1 1 1 1 1 1 1 1 1 1 1 1 1 1 1 1 1 1 1 1 1 1 1 2 1 1 1 1 1 1 1 2 1 1
    1 1 1 1 1 1 1 1 1 1 1 1 1 1 1 1 1 1 1 1 1.2 1 1 3.2 1 1.2 1.3 2.4 1.2 1.3 3.2 1.2 1 1 1.2 1 2
    1.2 1.3 1 1.2 3 7 2 2 2 1 1 1 1 1 1 1 2 1 1 1 1 1 1 1 1 2 2 1.3 1 1 1 1 1 1 1 1 1 1 1 1 1 1 1
    1 1 1 1 1 1 1 1 1 1 1 1 1 1 7.2 1.2 2 1.4 1 1 1 1 121 1 3 8 6 1.3 1 1.2 1.11 1.9 23 2.3 3 1 1
    1 1 1 1 1 1 1 1 1 5 2 1.2 2.33 30 1 1 1 1 1 1 1 1 1 1 1 1 1 1 1 1 9 1 1 1 1 1 1 1 1 1 1 1 1 1
    1 1 1 1 1 1 1 1 1 1 1 1 1 1.2 1 1 1 1 1 1 2 1 1 1 1 1 1 1 1 1 1 1 1 1 1 1 1 1 1 1 1 1 1 1 1 1
    1 1 1 1 1 1 1 1 1 1 1 1 1 1 1 1 1 1 1 1 1 1 2.26 b49.26 1 5 2d2.56 893 6.2b 2.3 140 1 1 1 1 1
    1 1 1 1 1 1 1 1 1 1 1 1 1 1 1 1 1 1 1 1 1 1 1 1 1 1 1 1 1 1 1 1 1 1 1 1 1 1 1 1 1 1 1 1 1 1 1
    1 1 1 1 1 1 1 1 1 1 1 1 1 1 1 1 1 1 1 1 1 1 9 1 1 1 1 1 1 1 1 1 1 1 1 1 1 1 1 1 1 1 1 1 1 1 1
    1 1 1 1 1 1 1 1 1 1 1 1 1 1 1 1 1 1 1 1 1 1 1 1 9.8 8.6 a.8 8.8 8.6 b 1 1 1 8.8 48.4 c.4 c.4
    c.5 b.4 106 4 3.3 2.3 2 3.5 6 1 1 1.4 2.4 a.2 5 1a.10 13 332.1a 730.30 30 1.3 2 1 1 1.4 1 2
    8.3 1 1 1 1 1 1 1 1 1 1 1 1 1 1 1 1 1 1 1 1 1 1 1 1 1 1 1 1 1 1 1 1 1 1 1 1 1 1 1 1 1 1 1 1 1
    1 1 1 1 8 1 4 794d 1 1 1 1 1 1 1 1 1 1 1 1 1 1 1 1 1 1 1 1 1 1 13 1 1 1 1 1 1 1 1 1 1 1 1 1 87
    1 1 1 1 1 1 3 1 1 1 1 1 1 1 1 1 1 1 1 1 1 1 1 1 1 1 1 1 1 1 1 1 1 1 1 1 1 a 1 1.2 1 1 1 1 4 1
    2 1 3 1 1 1 1 1 1 1 1 1 1.5 1.5 1 1 1 1 1 1 1 1.4 1 1.2 1 1 1 1 1 1 1 1 18 572b.1a 4c5.28
    88.24 9c.b 1.f 1.7 1.2 6ea.33 9d.16 b3a.20 5580.20 40.19 6547.1a 1a.1a 1a.1a 1a 1.2 2 2.2 2.4
    1.8 1a.1a 1a.2 1.4 2.8 1.7 1b.2 1.4 1.5 1 3.7 1b.1a 1a.1a 1a.1a 1a.1a 1a.1a 1a.1a 1e.19 21.19
    21.19 21.19 21.19 21 1135.22 80e.1a 6.1a 6.1a"

/-- Characters in lower case. -/
def smallSet : CharSet :=
  .ofRuns
    "61.1a 2f a 4 24.18 1.8 1 1 1 1 1 1 1 1 1 1 1 1 1 1 1 1 1 1 1 1 1 1 1 1 1 1 1 1.2 1 1 1 1 1 1 1
    1.2 1 1 1 1 1 1 1 1 1 1 1 1 1 1 1 1 1 1 1 1 1 1 1 2 1 1.3 2 1 2 3.2 4 2 3.3 2 2 1 1 2 1.2 1 2
    3 1 2.2 2.3 6 2 2 1 1 1 1 1 1 1 1.2 1 1 1 1 1 1 1 1 1.2 2 1 3 1 1 1 1 1 1 1 1 1 1 1 1 1 1 1 1
    1 1 1 1 1 1 1 1 1 1 1 1 1.7 2 2.2 1 4 1 1 1 1.45 2.23 7.2 1e.5 60 2b 1 3 2.4 12 1b.23 1.2 3.3
    1 1 1 1 1 1 1 1 1 1 1 1.5 1 2 2.2 33.30 1 1 1 1 1 1 1 1 1 1 1 1 1 1 1 1 1 9 1 1 1 1 1 1 1 1 1
    1 1 1 1 1 1 1 1 1 1 1 1 1 1 1 1 1 2 1 1 1 1 1 1.2 1 1 1 1 1 1 1 1 1 1 1 1 1 1 1 1 1 1 1 1 1 1
    1 1 1 1 1 1 1 1 1 1 1 1 1 1 1 1 1 1 1 1 1 1 1 1 1 1 30.29 b47.2b 1.4 2f8.6 882.9 1 75.c0 41 1
    1 1 1 1 1 1 1 1 1 1 1 1 1 1 1 1 1 1 1 1 1 1 1 1 1 1 1 1 1 1 1 1 1 1 1 1 1 1 1 1 1 1 1 1 1 1 1
    1 1 1 1 1 1 1 1 1 1 1 1 1 1 1 1 1 1 1 1 1 1 1 1 1 1.9 1 1 1 1 1 1 1 1 1 1 1 1 1 1 1 1 1 1 1 1
    1 1 1 1 1 1 1 1 1 1 1 1 1 1 1 1 1 1 1 1 1 1 1 1 1 1 1 1 1.9 8.6 a.8 8.8 8.6 a.8 8.8 8.e 2.8
    8.8 8.8 8.5 1.2 6 3.3 1.2 8.4 2.2 8.8 a.3 1.2 79 d 10.d 6d 3.2 3 1b 4 4 2.2 8.4 4 21.10 4
    34b.1a 746.30 1 3.2 1 1 1 4 1.2 1.8 3 1 1 1 1 1 1 1 1 1 1 1 1 1 1 1 1 1 1 1 1 1 1 1 1 1 1 1 1
    1 1 1 1 1 1 1 1 1 1 1 1 1 1 1 1 1 1 1 1 1.2 7 1 4 c.26 1 5 7913 1 1 1 1 1 1 1 1 1 1 1 1 1 1 1
    1 1 1 1 1 1 1 13 1 1 1 1 1 1 1 1 1 1 1 1 1.3 85 1 1 1 1 1 1.3 1 1 1 1 1 1 1 1 1 1 1 1 1 1 1 1
    1 1 1 1 1 1 1 1 1 1 1 1 1 1 1.a 1 1 2 1 1 1 1 4 1 2 1.3 1 1 1 1 1 1 1 1 1 1 5 5 1 1 1 1 1 1 1
    4 1 2 1 1 1 1 1 1 1 15.4 1 1.3 335.2b 1.e 6.50 4f40.7 c.5 429.1a 4cd.28 88.24 9b.b 1.f 1.7 1.2
    1c3 2.3 1.2a 1.9 505.33 7d.16 b3a.20 5580.20 3b.19 6546.1a 1a.7 1.12 1a.1a 1a.4 1 1.7 1.b
    1a.1a 1a.1a 1a.1a 1a.1a 1a.1a 1a.1a 1a.1a 1a.1a 1a.1c 1c.19 1.6 1a.19 1.6 1a.19 1.6 1a.19 1.6
    1a.19 1.6 1 734.a 1.14 6.6 105.3e 8b4.22"

/-- Characters that have case. -/
def casedSet : CharSet :=
  .ofRuns
    "41.1a 6.1a 2f a 4 5.17 1.1f 1.c3 1.4 4.d0 2.23 7.2 1e.5 60 2a.4 2.2 2.4 1 6 1.3 1 1.14 1.53
    1.8b 8.a6 1.26 9.29 b17.26 1 5 2.2b 1.4 2a0.56 2.6 882.b 5.2b 2.3 40.c0 40.116 2.6 2.26 2.6
    2.8 1 1 1 1.1f 2.35 1.7 1 3.3 1.7 3.4 2.6 4.d 5.3 1.7 74 d 10.d 65 4 2.a 1 3.5 6 1 1 1.4 1.6 4
    2.4 5.5 4 11.20 3.2 331.34 716.e5 6.4 3.2 c.26 1 5 7912.2e 12.1e 84.66 3.4 1.4d 14.6 1.3
    335.2b 1.e 6.50 4f40.7 c.5 409.1a 6.1a 4a5.50 60.24 4.24 74.b 1.f 1.7 1.2 1.b 1.f 1.7 1.2 1c3
    2.3 1.2a 1.9 4c5.33 d.33 5d.16 a.16 b1a.40 5560.40 20.19 2.19 652c.55 1.47 1.2 2 2.2 2.4 1.c 1
    1.7 1.41 1.4 2.8 1.7 1.1c 1.4 1.5 1 3.7 1.154 2.19 1.19 1.1f 1.19 1.1f 1.19 1.1f 1.19 1.1f
    1.19 1.8 734.a 1.14 6.6 105.3e 892.44 7ec.1a 6.1a 6.1a"

/-- Characters that are passed over when the end of a word is sought. -/
def caseIgnorableSet : CharSet :=
  .ofRuns
    "27 6 b 23 1 47 4 1 4 2.2 1f7.c0 4.2 4 9.2 1 fb.7 cf 5 31.2d 1 1.2 1.2 1 2c b.6 a.b 1 23 a.15
    10 65.8 1.a 1.4 21 1 1e.1b 5b.b 3a.b 4 2 18.18 2b.3 2c 7.2 5.9 29.3a 37 1 4.8 4 3.7 a.2 d f 3a
    4.4 8 14.2 1a 2.2 39 4.2 4.2 2.3 3 1e.2 3 b.2 39 4.5 1.2 4 14.2 16.6 1 3a 2 1.4 8 7.2 b.2 1e
    3d c 32 3 37 1.3 5.3 1.4 7.2 b.2 1d 3a 2 6 5.2 14.2 1c.2 39.2 4.4 8 14.2 1d 48 7.3 1 5a 2.7
    b.9 62 2.9 9 1.7 49.2 1b 1 1 37.e 1.5 1.2 5.b 1.24 9 66.4 1.6 1.2 2.2 19.2 4.3 10.4 d 2.2 6 f
    5e 260.3 3b2.3 1d.2 1e.2 1e.2 40.2 1.7 8 2.b 3 5 2d.5 33 41.2 22 76.3 4.2 9 6.3 db.2 2 3a 1.7
    1 1 2.8 6.a 2 27 8.2e 2.c 14.4 30 1.5 1 5 28.9 c.2 20.4 2.2 1.3 38 1.2 3 1.3 3a.8 2.2 40.6
    52.3 1.d 1.7 4 6 3.2 32.3f d 22.65 1bd 1.3 b.3 d.3 d.3 d.2 c.5 8.2 a 2 2.5 31.5 1.a 1 d 10.d
    33.21 b8b.2 71.3 7d f 60.20 2f 1d5 24.4 3.5 5 5d.6 5d.3 6f16 4e2.6 10e 62.4 1.a 1 1c.4 50.2
    e.22 4e 17.3 66.4 3.2 8 3 4 19.2 5 97.2 1a.12 d 26.8 19.b 2e.3 30 2.4 2.2 11 15.2 42.6 2.2 2.2
    c 8 23 b 33 1.3 2.2 5.2 1 1b e.2 5.2 1 64.5 9.3 79 2 4 4f30 93.11 23d.10 3 c.10 22 2 a9 7 6 b
    23 1 2f 2d.2 43 15.3 201 e2 95.5 405.6 1.2a 1.9 246.3 1.2 5.4 28.3 4 a5.2 23d.4 26 1a.5 1
    13b.2 18 34.6 46.b 31.4 7b 36.f 29 2.2 a.3 31.4 2.2 2 4 a 32.3 24.5 1.8 3e c.2 34.9 a.4 2 5f.3
    2 1.2 6 2 9d 3.8 15.2 39.2 3 25.7 3.5 46.6 d 1 1 e.2 55.8 2.3 1 17 54.6 1 4.2 1.2 ee.4 6.2 1.2
    1b.2 55.8 2 1.2 6a 1 2.6 1 65 1 2.4 1.5 103.9 1.2 100.2 1 4 90.4 2.2 4 20.a 28.6 2.4 8 9.6 2.3
    2e.d 1.2 c6 1.3 1 c9.7 1.6 1 52.16 2.7 1.2 1.2 7a.6 3 1.2 1.7 1 48.2 3 1 41 119.2 b.2 34.5 5 1
    17 14d5.11 6.f 2cc8.c 3.3 9c0.5 3b.7 9.4 1fc.3 28.2 1e2 3f.11 40.2 1.2 d.2 3ffc.4 1.7 1.2
    c9e.2 1.4 125c.2e 2.17 220.3 9.10 2.7 1e.4 94.3 7bb.37 4.32 8 e 16.5 1.f 550.7 1.11 2.7 1.2
    1.5 5.3e 21 a0.e 170 3d.4 1fb.5 fe.2 f3 2 7.2 5 9 1d0.7 6d.8 aaf.5 c0c01 1e.60 80.f0"

/-- Characters without a visible shape: controls, formats, separators other than the space, and
those that are private or unassigned. -/
def shapelessSet : CharSet :=
  .ofRuns
    "0.20 5f.22 c 2ca.2 6.4 7 1 14 18d 26.2 32.2 3 37.8 1b.4 6.11 16 c0 30.2 3b.2 65.e 3b.2 31.2 f
    1c.2 1 b.5 20.7 4b a1 8.2 2.2 16 7 1.3 4.2 9.2 2.2 4.8 1.4 2 5.2 19.2 3 6.4 2.2 16 7 2 2 2.2 1
    5.4 2.2 3.3 1.7 4 1.7 11.a 3 9 3 16 7 2 5.2 a 3 3.2 1.f 4.2 c.7 7 3 8.2 2.2 16 7 2 5.2 9.2 2.2
    3.7 3.4 2 5.2 12.a 2 6.3 3 4.3 2 1 2.3 2.3 3.3 c.4 5.3 3 4.2 1.6 1.e 15.5 d 3 17 10.2 9 3 4.7
    2 3 2.2 4.2 a.7 16 3 17 a 5.2 9 3 4.7 2.5 3 4.2 a 3.c d 3 33 3 6.4 10.2 1a 3 12.3 18 9 1.2 7.3
    1.4 6 1 8.6 a.2 3.c 3a.4 1d.25 2 1 5 18 1 17.2 5 1 7 a.2 4.20 48 24.4 27 24 f d.25 c6 1.5 1.2
    179 4.2 7 1 4.2 29 4.2 21 4.2 7 1 4.2 f 39 4.2 43.2 20.3 1a.6 56.2 6.2 280 1c.3 59.7 16.9 18.9
    14.c d 3 2.c 5e.2 a.6 a.6 e b.6 59.7 2b.5 46.a 1f c.4 c.4 1.3 2a.2 5.b 2c.4 1a.6 b.3 3e.2 41
    1d.2 b.6 a.6 e.2 2e.2 c.14 4d a6.8 3c.3 f.3 3e.5 2b.2 b.8 2b.5 216.2 6.2 26.2 6.2 8 1 1 1 1f.2
    35 f e.2 6 13.2 3 9.11 18.8 2f.11 2.2 1b d.3 22.e 21.f 8c.4 29a.16 b.15 714.2 17e.5 2d 1.5 1.2
    38.7 2.e 18.9 7 7 7 7 7 7 7 7 7e.22 1a 59.c d6.1a 10 3f 56.2 67.5 2b 5e 56.9 30 726d.3 37.9
    15c.14 b8.8 dd.14 3c.3 a.6 38.8 46.8 c.6 74.b 1e.3 4e b.4 21 37.9 e.2 a.2 67.18 1c.a 6.2 6.2
    6.9 7 7 3c.4 7e.2 a.6 2ba4.c 17.4 31.4 800.1900 16e.2 6a.26 7.c 5.5 1a 5 1 2 2 28a.20 2a.6 33
    13 4.4 5 87.4 be.3 6.2 6.2 6.2 3.3 7 7.d 2.2 c 1a 13 2 f.2 e.22 7b.5 3.4 2d.3 58 d.3 1.2f
    2e.82 1d.3 31.f 1c.4 24.9 1e.5 2b.5 1e 25.4 e.2a 9e.2 a.6 24.4 24.4 28.8 34.b c f 7 2 b f 7
    2.3 34.c 137.9 16.a 8.18 6 2a 9.45 6.2 1 2c 2.3 1.2 17 48.8 9.30 13 2.5 21.3 1b.5 1b.26 38.4
    14.2 32 2.5 8 3 1d.2 3.4 a.7 9.7 40.20 27.4 c.9 36.3 1d.2 1b.5 1a.7 4.c 7.50 49.37 33.d 33.7
    2e.8 a.6 26.3 1d.8 2.d0 1f 2a 3.2 2.10 6.8 9.21 2e.8 2a.16 1a.26 1c.14 17.9 4e.4 24.9 3e 5.d
    19.7 a.6 35 12.8 27.9 60 14.b 12 2f.3e 7 1 4 f b.6 3b.5 a.6 4 8.2 2.2 16 7 2 5 a.2 2.2 3.2 1.6
    1.5 7.2 7.3 5.b a 1.2 1 26 a 1.2 1 4 a 2.8 2.1d 5c 5.1e 48.8 a.a6 36.2 26.22 45.b a.6 d.13
    3a.6 a.6 14.1c 1b.2 f.4 17.b9 3c.64 53.c 8.2 1.2 8 2 1e 2.2 c.9 a.46 8.2 2e.2 b.1b 48.8 53.d
    49.7 a.56 8.58 22.e a.6 9 2d e.a 1d.3 20.2 16 e.49 7 2 2c.3 1 2 9.8 a.6 6 2 25 2 6.7 a.6 2c.4
    a.f6 19.7 11 29.3 1d.55 1.f 32.d 39b.66 6f 5.b c4.a4c 63.d 430.10 16.a f9b.5 247.1ab9 3a.6c6
    239.7 1f a.4 51 a.6 1e.2 6.a 46.a a 7 15.5 13.1b0 3a.c6 5b.5 19.2 19.2c 4b.4 39.7 11.40 5.b
    7.9 1cd6.29 20.61 73.21fd 4 7 2 123.f 1.1d 3.2 1.e 4.8 18c.904 6b.5 d.3 9.7 a.2 4.f60 fd.3
    1b4.6 17.f 11.f 2e.2 17.9 74.3c f6.a 27.2 4a.8 70.15 46.7a 14.c 14.c 57.9 19.87 55 47 2.2 1.2
    2.2 4 c 1 7 41 4.2 8 7 1c 4 5 1.3 7 154.2 124.2 2be.f 5 f.450 1f.6 6.d5 7 11.2 7 2 5.5 3e.21
    1.70 2d.3 e.2 a.4 2.140 1f.11 3a.5 1.1d0 2a.d6 2b.4 1.c0 1f 16.8 2.e0 7 4 2 f c5.2 10.29 4c.4
    a.4 2.311 44.4c 3d.c2 4 1b 2 1.2 1 a 4 1 1.6 1.4 1 1 1 3 2 1.2 1 1 1 1 1 2 1.2 4 7 4 4 1 a
    11.5 3 5 11.34 2.10e 2c.4 64.c f.2 f f 25.a ae.38 1d.d 2c.4 9.7 2.e 6.9a 3d9.3 11.3 d.3 da.6
    c.4 1.f c.4 38.8 a.6 28.8 1e.2 c.4 2.e 9.27 158.8 e.2 d.3 b.3 39 1.4 10.2 c.4 a.7 93 67.405
    a6e0.20 111e.2 168e.2 1d31.f 26e.9a2 21e.5e2 134b.5 212a.acc86 f0.2fe10"

/-- Characters that attach themselves to the one before, and fillers that leave a blank. -/
def attachingSet : CharSet :=
  .ofRuns
    "300.70 113.7 107.2d 1 1.2 1.2 1 48.b 30.15 10 65.7 2.6 2.2 1.4 23 1e.1b 5b.b 3a.9 9 18.4 1.9
    1.3 1.5 2b.3 3b.9 2a.18 1.20 37 1 4.8 4 3.7 a.2 1d 3a 1 2.4 8 9 a.2 1a 2.2 39 4.2 4.2 2.3 3
    1e.2 3 b.2 39 4.5 1.2 4 14.2 16.6 1 3a 1.2 1.4 8 7.3 a.2 1e 3b 1 c 9 28 3 37 1.3 5.3 1.4 7.2
    b.2 1d 3a 2.2 1 3.3 1.4 7.2 b.2 1c.2 39.2 1 2.4 8 9 a.2 1d 48 4 2.3 1 8 51 2.7 c.8 62 2.9 b.7
    49.2 1b 1 1 37.e 1.5 1.2 5.b 1.24 9 66.4 1.6 1.2 2.2 19.2 4.3 10.4 d 2.2 6 f c1.2 1fc.3 3b2.4
    1c.3 1d.2 1e.2 40.2 1.7 8 2.b 9 2d.3 1 75.2 22 76.3 4.2 9 6.3 db.2 2 3a 1.7 1 1 2.8 6.a 2
    30.2e 2.c 14.4 30.a 4.3 26.9 c.2 20.4 2.6 38 1.2 3 1.5 38.8 2.2 98.3 1.d 1.7 4 6 3.2 c6.40 20c
    c3.21 bfe.3 8d 60.20 22a.6 69.2 c9 750a.4 1.a 20.2 50.2 110 3 4 19.2 5 97.2 1a.12 d 26.8 19.b
    1 2c.3 30 2.4 2.2 2 24 43.6 2.2 2.2 c 8 2f 33 1.3 2.2 5.2 1 2a.2 8 ee 2 4 4f30 2e1.10 10.10
    170 25c e2 95.5 686.3 1.2 5.4 28.3 4 a5.2 23d.4 41.5 13d.2 4d.6 46.b 31.4 7b 36.f 29 2.2 a.3
    31.4 2.2 7 3d.3 24.5 1.8 3e c.2 34.9 1 8.4 2 5f.3 2.4 6 2 9d 3.8 15.2 39.2 1 1 c 9 e.7 3.5 43
    2.6 1 2 1.3 4.3 1 e.2 55.8 2.3 1 17 51 2.6 1 2 1.2 1.2 eb 2.4 6.2 1.2 1b.2 55.8 2 1.2 6a 1 2.8
    65 1 2.4 1.5 103.9 1.2 f5 a.4 4 90.4 2.2 4 20.a 28.6 2.4 8 9.6 2.3 2e.d 1.2 c6 1.3 1 c9.7 1.6
    1 52.16 2.7 1.2 1.2 7a.6 3 1.2 1.7 1 48.2 3 1 15b.2 b.2 34.5 5.3 17 14e5 6.f 2cc8.c 3.3 9c0.5
    3b.7 418 3f.4 51 b.2 4cab.2 1261.2e 2.17 21e.5 3.6 8.8 2.7 1e.4 94.3 7bb.37 4.32 8 e 16.5 1.f
    550.7 1.11 2.7 1.2 1.5 64 a0.7 177 3d.4 1fc.4 fe.2 f3 2 7.2 5 1da.7 6d.7 c16d5.60 80.f0"

/-- Characters that are letters or have a numeric value. -/
def letterOrNumberSet : CharSet := letterSet.union numberSet

end Groundwork.Unicode
